import XrtcServer.Base.Sds
import XrtcServer.Signaling.Query

/-!
# Room for what is read

`_read_query` takes `bytes_expected` as an `int` and hands it on as a `size_t`, to `sdsMakeRoomFor`
and to the socket. The header of the string then counts the room in an `int` again, and with it the
`SDS_MAX_PREALLOC` octets that a long string gets in addition, and the octets of the string after
each read, also after one that closes the connection.
-/

namespace XrtcServer.Signaling
open XrtcServer.Base XrtcServer.Core

/-- The number of octets that `_read_query` asks `sdsMakeRoomFor` and the socket for. -/
def Framing.asked (q : Framing) : Nat := toSizeT q.readLen

/-- A connection, the header of the string that is read into, and the octets in the string. -/
structure ReadState where
  session : Session
  sds : Sds
  octets : Nat

/-- A connection that was accepted. -/
def ReadState.initial : ReadState := ⟨.opened {} [], .sdsempty, 0⟩

/-- One `_read_query` and the string it reads into. -/
def RoomStep (request : List Call → Bytes → Bytes → Int) (t : ReadState) (r : ReadResult)
    (t' : ReadState) : Prop :=
  ∃ q calls, t.session = .opened q calls ∧ ReadStep request (.opened q calls) r t'.session ∧
    match r with
    | .data chunk =>
      t'.sds = (t.sds.sdsMakeRoomFor q.asked).sdsIncrLen chunk.length ∧
        t'.octets = (q.querybuf ++ chunk).length
    | _ => t'.sds = t.sds.sdsMakeRoomFor q.asked ∧ t'.octets = q.querybuf.length

/-- The next `_read_query` asks for as many octets as are expected, and it closes the connection or
asks for a positive number of octets that fit the free room behind the string. -/
def AskFits (q : Framing) (s : Sds) : Prop :=
  let room := s.sdsMakeRoomFor q.asked
  q.asked = q.bytesExpected ∧
    ((∀ r : ReadResult, r.Fits q → q.receive r = none) ∨
      0 < q.readLen ∧ (q.asked : Int) ≤ room.free ∧ room.len = q.querybuf.length ∧
        room.len + room.free ≤ room.room)

/-- The header counts the octets of the string, whatever became of the connection, and the next
`_read_query` fits. -/
def ReadFits (t : ReadState) : Prop :=
  t.sds.len = t.octets ∧ ∀ q calls, t.session = .opened q calls → AskFits q t.sds

/-- Where a read completes a header with the right magic, its `body_len` is as `P` says. -/
def BodyLenMeets (P : Nat → Prop) (q : Framing) (chunk : Bytes) : Prop :=
  q.currentState = .head → xheadSize ≤ (q.querybuf ++ chunk).length →
    (XHead.ofBytes (q.querybuf ++ chunk)).magicNum = xheadMagicNum →
    P (XHead.ofBytes (q.querybuf ++ chunk)).bodyLen

/-- The room for a body and the `SDS_MAX_PREALLOC` octets in addition can be counted in an `int`. -/
def RoomForBody (bodyLen : Nat) : Prop := bodyLen + Sds.maxPrealloc < 2 ^ 31

/-- The condition on a read: the string stays shorter than 2^31, and a header with the right magic
that is complete now has a `body_len` that fits. -/
def ChunkFits (t : ReadState) (r : ReadResult) : Prop :=
  ∀ q calls chunk, t.session = .opened q calls → r = .data chunk →
    (q.querybuf ++ chunk).length < 2 ^ 31 ∧ BodyLenMeets RoomForBody q chunk

/-- The connection waits for the header or has it. -/
inductive Framing.Progress (q : Framing) : Prop
  | head (hstate : q.currentState = .head) (hprocessed : q.bytesProcessed = 0)
      (hexpected : q.bytesExpected = xheadSize) (hlen : q.querybuf.length < xheadSize + xheadSize)
  | body (hstate : q.currentState = .body) (hprocessed : q.bytesProcessed ≤ 65535)
      (hexpected : q.bytesExpected = (XHead.ofBytes q.querybuf).bodyLen)
      (hhead : xheadSize ≤ q.querybuf.length)

variable {request : List Call → Bytes → Bytes → Int} {q q' : Framing} {calls calls' : List Call}
  {s s' : Sds} {chunk : Bytes} {r : ReadResult} {t t' : ReadState}

/-- What the loop keeps: the octets, and the state unless it takes in a header. -/
structure Framing.Follows (q₀ q : Framing) : Prop where
  progress : q.Progress
  querybuf : q.querybuf = q₀.querybuf
  head : q.currentState = .head → q = q₀
  body : q.currentState = .body →
    q₀.currentState = .body ∨ (XHead.ofBytes q₀.querybuf).magicNum = xheadMagicNum

lemma Framing.Progress.follows (h : q.Progress) : q.Follows q :=
  ⟨h, rfl, fun _ => rfl, fun hbody => Or.inl hbody⟩

lemma Framing.Follows.next {q₀ : Framing} (h : q₀.Follows q)
    (hiter : processQueryIter (logged request) (q, calls) = .inl (q', calls')) : q₀.Follows q' := by
  obtain ⟨hlen, ⟨hstate, hmagic, -, rfl⟩ | ⟨hstate, -, rfl⟩⟩ := processQueryIter_eq_inl hiter
  · obtain rfl := h.head hstate
    cases h.progress with
    | head _ hprocessed hexpected _ =>
      have hsize : xheadSize ≤ 65535 := by decide
      exact ⟨.body rfl hsize rfl (by dsimp only; omega), rfl, fun hhead => (by cases hhead),
        fun _ => Or.inr hmagic⟩
    | body hbody => exact absurd (hbody.symm.trans hstate) (by decide)
  · cases h.progress with
    | head hhead => exact absurd (hhead.symm.trans hstate) (by decide)
    | body _ _ hexpected hhead =>
      exact ⟨.body hstate (Nat.le_refl _) hexpected hhead, h.querybuf,
        fun hhead => absurd (hhead.symm.trans hstate) (by decide), fun _ => h.body hstate⟩

/-- Where the connection stays open, it waits for more. -/
lemma Framing.Progress.processed (h : q.Progress)
    (hs : Processed request q calls (.opened q' calls')) :
    q.Follows q' ∧ q'.querybuf.length < q'.bytesProcessed + q'.bytesExpected := by
  have hresult := Yields.invariant (I := fun s => q.Follows s.1)
    (Q := fun r => r.1 = 0 → q.Follows r.2.1 ∧
      r.2.1.querybuf.length < r.2.1.bytesProcessed + r.2.1.bytesExpected)
    (fun _ _ hI hiter => hI.next hiter) ?_ h.follows hs
  · exact hresult rfl
  · rintro ⟨q₁, calls₁⟩ ⟨ret, q₂, calls₂⟩ hI hiter hret
    obtain ⟨rfl, ⟨-, -, hlen⟩ | ⟨hret', -⟩⟩ := processQueryIter_eq_inr hiter
    · exact ⟨hI, hlen⟩
    · exact absurd (hret.symm.trans hret') (by decide)

lemma bodyLen_lt (buf : Bytes) : (XHead.ofBytes buf).bodyLen < 2 ^ 32 := by
  have hlt := ofBE_lt ((buf.drop 32).take 4).reverse
  have hlen : ((buf.drop 32).take 4).reverse.length ≤ 4 := by
    rw [List.length_reverse, List.length_take]
    omega
  have hpow : 256 ^ ((buf.drop 32).take 4).reverse.length ≤ 256 ^ 4 :=
    Nat.pow_le_pow_right (by omega) hlen
  exact Nat.lt_of_lt_of_le hlt hpow

lemma asked_eq (h : q.bytesExpected < 2 ^ 31) : q.asked = q.bytesExpected := by
  rw [Framing.asked, readLen_eq h, toSizeT_natCast (by omega)]

lemma asked_ne (hlo : 2 ^ 31 ≤ q.bytesExpected) (hhi : q.bytesExpected < 2 ^ 32) :
    q.asked ≠ q.bytesExpected := by
  have hneg : q.readLen = (q.bytesExpected : Int) - 2 ^ 32 := toInt32_eq_sub (by omega) (by omega)
  rw [Framing.asked, hneg, toSizeT]
  omega

/-- While a connection is open, the header of the string counts its octets, and `bytes_expected` is
such that the next growth can be counted as well. -/
structure RoomInv (q : Framing) (s : Sds) : Prop where
  progress : q.Progress
  idle : q.querybuf.length < q.bytesProcessed + q.bytesExpected
  counts : s.Counts q.querybuf.length
  head : q.currentState = .head → s.free < Sds.maxPrealloc
  body : q.currentState = .body → RoomForBody q.bytesExpected

/-- The header counts the octets of the string also when the connection is closed. -/
structure ReadInv (t : ReadState) : Prop where
  len : t.sds.len = t.octets
  opened : ∀ q calls, t.session = .opened q calls → RoomInv q t.sds

lemma RoomInv.expected (h : RoomInv q s) : q.bytesExpected + Sds.maxPrealloc < 2 ^ 31 := by
  cases h.progress with
  | head _ _ hexpected _ =>
    rw [hexpected]
    decide
  | body hstate _ _ _ => exact h.body hstate

lemma RoomInv.length_lt (h : RoomInv q s) : q.querybuf.length < 2 ^ 31 := by
  have hexpected := h.expected
  have hmax : Sds.maxPrealloc = 2 ^ 20 := rfl
  have hidle := h.idle
  cases h.progress with
  | head _ hprocessed _ _ => omega
  | body _ hprocessed _ _ => omega

lemma RoomInv.asked (h : RoomInv q s) : q.asked = q.bytesExpected :=
  asked_eq (Nat.lt_of_le_of_lt (Nat.le_add_right _ _) h.expected)

lemma RoomInv.readLen (h : RoomInv q s) : q.readLen = q.bytesExpected :=
  readLen_eq (Nat.lt_of_le_of_lt (Nat.le_add_right _ _) h.expected)

/-- The room that `_read_query` makes. -/
lemma RoomInv.room (h : RoomInv q s) :
    (s.sdsMakeRoomFor q.asked).Counts q.querybuf.length ∧
      (q.bytesExpected : Int) ≤ (s.sdsMakeRoomFor q.asked).free := by
  rw [h.asked]
  exact h.counts.sdsMakeRoomFor h.length_lt h.expected

lemma RoomInv.askFits (h : RoomInv q s) : AskFits q s := by
  obtain ⟨hcounts, hfree⟩ := h.room
  refine ⟨h.asked, ?_⟩
  by_cases hzero : q.bytesExpected = 0
  · refine Or.inl fun r hr => ?_
    have hlen := h.readLen
    cases r with
    | data chunk =>
      have hpos : 0 < chunk.length := hr.1
      have hle : (chunk.length : Int) ≤ q.readLen := hr.2
      omega
    | wouldBlock =>
      have hpos : 0 < q.readLen := hr
      omega
    | failed => rfl
  · have hlen := hcounts.len
    have hle := hcounts.free_le
    have hsum : (s.sdsMakeRoomFor q.asked).len + (s.sdsMakeRoomFor q.asked).free ≤
        (s.sdsMakeRoomFor q.asked).room := by omega
    refine Or.inr ⟨?_, ?_, hlen, hsum⟩
    · rw [h.readLen]
      omega
    · rw [h.asked] at hfree ⊢
      exact hfree

/-- What is left of the room once a read of `incr` octets is in. -/
lemma RoomInv.free_lt (h : RoomInv q s) (hhead : q.currentState = .head) :
    (s.sdsMakeRoomFor q.asked).free < Sds.maxPrealloc := by
  have hexpected : q.bytesExpected = xheadSize ∧ q.querybuf.length < xheadSize + xheadSize := by
    cases h.progress with
    | head _ _ hexpected hlen => exact ⟨hexpected, hlen⟩
    | body hbody => exact absurd (hbody.symm.trans hhead) (by decide)
  have hsize : xheadSize = 36 := rfl
  have hmax : Sds.maxPrealloc = 2 ^ 20 := rfl
  have hnew := h.counts.newlen h.length_lt (by omega : q.bytesExpected < 2 ^ 31)
  rw [if_pos (by omega)] at hnew
  rw [h.asked, Sds.sdsMakeRoomFor]
  split
  · exact h.head hhead
  · dsimp only
    rw [hnew, h.counts.sdslen h.length_lt, toInt32_eq (by omega) (by omega)]
    omega

lemma RoomInv.processed (h : RoomInv q s) (hfits : (ReadResult.data chunk).Fits q)
    (hs : Processed request (q.append chunk) calls (.opened q' calls')) :
    (q.append chunk).Follows q' ∧ q'.querybuf.length < q'.bytesProcessed + q'.bytesExpected := by
  have hlen : (q.append chunk).querybuf.length = q.querybuf.length + chunk.length :=
    List.length_append
  refine Framing.Progress.processed ?_ hs
  cases h.progress with
  | head hstate hprocessed hexpected hlt =>
    have hidle := h.idle
    have hread : (chunk.length : Int) ≤ q.bytesExpected := h.readLen ▸ hfits.2
    exact .head hstate hprocessed hexpected (by omega)
  | body hstate hprocessed hexpected hhead =>
    refine .body hstate hprocessed ?_ (by omega)
    rw [Framing.querybuf_append, XHead.ofBytes_append hhead, Framing.bytesExpected_append,
      hexpected]

/-- The number of octets that are expected is the `body_len` of the header. -/
lemma RoomInv.bodyLen {P : Nat → Prop} (h : RoomInv q s) (hfits : (ReadResult.data chunk).Fits q)
    (hC : BodyLenMeets P q chunk) (hold : q.currentState = .body → P q.bytesExpected)
    (hs : Processed request (q.append chunk) calls (.opened q' calls'))
    (hbody : q'.currentState = .body) : P q'.bytesExpected := by
  obtain ⟨hfollows, -⟩ := h.processed hfits hs
  cases hfollows.progress with
  | head hhead => exact absurd (hhead.symm.trans hbody) (by decide)
  | body hstate _ hexpected hhead =>
    rw [hfollows.querybuf, Framing.querybuf_append] at hhead hexpected
    rw [hexpected]
    cases h.progress with
    | head hhead' =>
      have hmagic := (hfollows.body hstate).resolve_left fun hbody =>
        absurd (hbody.symm.trans hhead') (by decide)
      exact hC hhead' hhead hmagic
    | body hstate' _ hexpected' hhead' =>
      rw [XHead.ofBytes_append hhead', ← hexpected']
      exact hold hstate'

/-- A read of which the loop leaves the connection open. -/
lemma RoomInv.data (h : RoomInv q s) (hfits : (ReadResult.data chunk).Fits q)
    (hlong : (q.querybuf ++ chunk).length < 2 ^ 31) (hC : BodyLenMeets RoomForBody q chunk)
    (hs : Processed request (q.append chunk) calls (.opened q' calls')) :
    RoomInv q' ((s.sdsMakeRoomFor q.asked).sdsIncrLen chunk.length) := by
  obtain ⟨hcounts, hfree⟩ := h.room
  have hread : (chunk.length : Int) ≤ q.bytesExpected := h.readLen ▸ hfits.2
  obtain ⟨hfollows, hidle⟩ := h.processed hfits hs
  have hsame := hfollows.querybuf
  rw [List.length_append] at hlong
  refine ⟨hfollows.progress, hidle, ?_, fun hhead => ?_, h.bodyLen hfits hC h.body hs⟩
  · rw [hsame, Framing.querybuf_append, List.length_append]
    exact hcounts.sdsIncrLen (Int.le_trans hread hfree) hlong
  · rw [hfollows.head hhead] at hhead
    rw [hcounts.free_sdsIncrLen (Int.le_trans hread hfree)]
    have hlt' := h.free_lt hhead
    omega

/-- The octets of a read fit the room, so the header counts them unless the string gets too long. -/
lemma RoomInv.len_data (h : RoomInv q s) (hfits : (ReadResult.data chunk).Fits q) :
    ((s.sdsMakeRoomFor q.asked).sdsIncrLen chunk.length).len = (q.querybuf ++ chunk).length ↔
      (q.querybuf ++ chunk).length < 2 ^ 31 := by
  obtain ⟨hcounts, hfree⟩ := h.room
  have hread : (chunk.length : Int) ≤ q.bytesExpected := h.readLen ▸ hfits.2
  rw [List.length_append]
  exact hcounts.len_sdsIncrLen h.length_lt (Int.le_trans hread hfree)

lemma ReadInv.step (h : ReadInv t) (hC : ChunkFits t r) (hstep : RoomStep request t r t') :
    ReadInv t' := by
  obtain ⟨q, calls, hsession, ⟨hfits, hs⟩, hread⟩ := hstep
  have hinv := h.opened q calls hsession
  cases r with
  | data chunk =>
    obtain ⟨hsds, hoctets⟩ := hread
    obtain ⟨hlong, hbody⟩ := hC q calls chunk hsession rfl
    refine ⟨?_, fun q' calls' hsession' => ?_⟩
    · rw [hsds, hoctets]
      exact (hinv.len_data hfits).mpr hlong
    · rw [hsds]
      exact hinv.data hfits hlong hbody (hsession' ▸ hs)
  | wouldBlock =>
    obtain ⟨hsds, hoctets⟩ := hread
    refine ⟨by rw [hsds, hoctets, hinv.room.1.len], fun q' calls' hsession' => ?_⟩
    have hprocessed : Processed request q calls (.opened q' calls') := hsession' ▸ hs
    have heq := hprocessed.eq_of_returns (processQueryBuffer_idle hinv.idle)
    cases heq
    rw [hsds]
    exact ⟨hinv.progress, hinv.idle, hinv.room.1, hinv.free_lt, hinv.body⟩
  | failed =>
    obtain ⟨hsds, hoctets⟩ := hread
    refine ⟨by rw [hsds, hoctets, hinv.room.1.len], fun q' calls' hsession' => ?_⟩
    rw [hsession'] at hs
    cases hs

/-- After a header with a longer `body_len` the next read does not fit. -/
lemma RoomInv.bodyLenFits {session : Session} (h : RoomInv q s)
    (hread : (ReadResult.data chunk).Fits q)
    (hs : Processed request (q.append chunk) calls session)
    (hfits : ∀ q' calls', session = .opened q' calls' →
      AskFits q' ((s.sdsMakeRoomFor q.asked).sdsIncrLen chunk.length)) :
    BodyLenMeets RoomForBody q chunk := by
  intro hhead hlen hmagic
  by_contra hlong
  rw [RoomForBody] at hlong
  obtain ⟨hcounts, hfree⟩ := h.room
  have hmax : Sds.maxPrealloc = 2 ^ 20 := rfl
  have hsize : xheadSize = 36 := rfl
  have hchunk : (chunk.length : Int) ≤ q.bytesExpected := h.readLen ▸ hread.2
  have hshort : q.bytesProcessed = 0 ∧ q.bytesExpected = xheadSize := by
    cases h.progress with
    | head _ hprocessed hexpected _ => exact ⟨hprocessed, hexpected⟩
    | body hbody => exact absurd (hbody.symm.trans hhead) (by decide)
  have hidle := h.idle
  have hsum : (q.querybuf ++ chunk).length = q.querybuf.length + chunk.length := List.length_append
  have hiter := processQueryIter_head (q := q.append chunk) request calls hhead
    (by simp only [Framing.bytesProcessed_append, Framing.bytesExpected_append,
      Framing.querybuf_append]; omega) hmagic
  have hopened : ProcessQueryBuffer (logged request) (q.append chunk) calls
      (0, (q.append chunk).withHead, calls) := by
    refine (yields_iff_of_again hiter).mpr (processQueryBuffer_idle ?_)
    simp only [Framing.withHead, Framing.querybuf_append]
    omega
  obtain ⟨hasked, hroom⟩ := hfits _ _ ((hs.eq_of_returns hopened).trans (if_pos rfl))
  have hlt : (q.append chunk).withHead.bytesExpected < 2 ^ 31 := by
    by_contra hge
    exact asked_ne (Nat.le_of_not_lt hge) (bodyLen_lt _) hasked
  have hbig : 2 ^ 31 ≤ (q.append chunk).withHead.bytesExpected + Sds.maxPrealloc :=
    Nat.le_of_not_lt hlong
  rcases hroom with hcloses | ⟨-, hroom, -, -⟩
  · have hpos : 0 < (q.append chunk).withHead.readLen := by
      rw [readLen_eq hlt]
      omega
    cases hcloses .wouldBlock hpos
  · have hlen' : q.querybuf.length + chunk.length < 2 ^ 31 := by omega
    have hcounts' := hcounts.sdsIncrLen (Int.le_trans hchunk hfree) hlen'
    have hfree' := hcounts.free_sdsIncrLen (Int.le_trans hchunk hfree)
    have hsmall := h.free_lt hhead
    have hle : Sds.maxPrealloc ≤ (q.append chunk).withHead.bytesExpected := by omega
    have hless : ((s.sdsMakeRoomFor q.asked).sdsIncrLen chunk.length).free <
        (q.append chunk).withHead.bytesExpected := by
      refine Int.lt_of_lt_of_le ?_ (Int.ofNat_le.mpr hle)
      rw [hfree']
      exact Int.lt_of_le_of_lt (Int.sub_le_self _ (Int.natCast_nonneg _)) hsmall
    have hneg := hcounts'.free_neg hlen' hless hlt hbig
    rw [hasked] at hroom
    exact absurd (Int.le_trans (Int.natCast_nonneg _) hroom) (Int.not_le_of_gt hneg)

lemma ReadInv.chunkFits (h : ReadInv t) (hstep : RoomStep request t r t') (hfits : ReadFits t') :
    ChunkFits t r := by
  rintro q calls chunk hsession rfl
  obtain ⟨q', calls', hsession', ⟨hread, hs⟩, hsds, hoctets⟩ := hstep
  cases hsession'.symm.trans hsession
  have hinv := h.opened q calls hsession
  obtain ⟨hlen, hask⟩ := hfits
  rw [hsds, hoctets] at hlen
  rw [hsds] at hask
  exact ⟨(hinv.len_data hread).mp hlen, hinv.bodyLenFits hread hs hask⟩

lemma readInv_initial : ReadInv .initial := by
  refine ⟨rfl, fun q calls hsession => ?_⟩
  cases hsession
  exact ⟨.head rfl rfl rfl (by decide), by decide, Sds.counts_sdsempty, fun _ => by decide,
    fun hbody => by cases hbody⟩

/-- However a connection's octets are read, the header of the string counts them, and every
`_read_query` closes the connection or asks for the octets that are expected and has the room for
them, precisely when the `body_len` of the header and `SDS_MAX_PREALLOC` together and the string
after every read are less than 2^31. -/
theorem readFits_iff (request : List Call → Bytes → Bytes → Int) (rs : List ReadResult) :
    Along (RoomStep request) ReadFits .initial rs ↔
      Meets (RoomStep request) ChunkFits .initial rs :=
  along_iff_meets (fun _ h => ⟨h.len, fun q calls hsession => (h.opened q calls hsession).askFits⟩)
    (fun _ _ _ h hC hstep => h.step hC hstep) (fun _ _ _ h hstep hfits => h.chunkFits hstep hfits)
    readInv_initial

/-! ## Bodies for which every read fits -/

/-- After a request that leaves the connection open, 65535 octets count as processed and another
body is read into the same string. -/
def maxBodyLen : Nat := (2 ^ 31 - 65535) / 2

/-- The condition on the `body_len` alone. -/
def ShortBody (t : ReadState) (r : ReadResult) : Prop :=
  ∀ q calls chunk, t.session = .opened q calls → r = .data chunk →
    BodyLenMeets (· ≤ maxBodyLen) q chunk

/-- What holds between two reads where all bodies are short. -/
structure ShortInv (t : ReadState) : Prop where
  inv : ReadInv t
  short : ∀ q calls, t.session = .opened q calls → q.currentState = .body →
    q.bytesExpected ≤ maxBodyLen

lemma ShortInv.chunkFits (h : ShortInv t) (hC : ShortBody t r) (hstep : RoomStep request t r t') :
    ChunkFits t r := by
  rintro q calls chunk hsession rfl
  obtain ⟨q', calls', hsession', ⟨hread, -⟩, -⟩ := hstep
  cases hsession'.symm.trans hsession
  have hinv := h.inv.opened q calls hsession
  have hmax : maxBodyLen = 1073709056 := rfl
  have hpre : Sds.maxPrealloc = 2 ^ 20 := rfl
  have hchunk : (chunk.length : Int) ≤ q.bytesExpected := hinv.readLen ▸ hread.2
  have hidle := hinv.idle
  refine ⟨?_, fun hhead hlen hmagic => ?_⟩
  · rw [List.length_append]
    cases hinv.progress with
    | head _ hprocessed hexpected _ =>
      have hsize : xheadSize = 36 := rfl
      omega
    | body hstate hprocessed _ _ =>
      have hshort := h.short q calls hsession hstate
      omega
  · have hshort := hC q calls chunk hsession rfl hhead hlen hmagic
    rw [RoomForBody]
    omega

lemma ShortInv.step (h : ShortInv t) (hC : ShortBody t r) (hstep : RoomStep request t r t') :
    ShortInv t' := by
  refine ⟨h.inv.step (h.chunkFits hC hstep) hstep, fun q' calls' hsession' hbody => ?_⟩
  obtain ⟨q, calls, hsession, ⟨hfits, hs⟩, -⟩ := hstep
  have hinv := h.inv.opened q calls hsession
  rw [hsession'] at hs
  cases r with
  | data chunk =>
    exact hinv.bodyLen hfits (hC q calls chunk hsession rfl) (h.short q calls hsession) hs hbody
  | wouldBlock =>
    have hprocessed : Processed request q calls (.opened q' calls') := hs
    cases hprocessed.eq_of_returns (processQueryBuffer_idle hinv.idle)
    exact h.short q' calls' hsession hbody
  | failed => cases hs

/-- Whatever is read, every read fits if the bodies are shorter than half of what an `int` counts. -/
theorem readFits_of_shortBody (request : List Call → Bytes → Bytes → Int) (rs : List ReadResult)
    (h : Meets (RoomStep request) ShortBody .initial rs) :
    Along (RoomStep request) ReadFits .initial rs := by
  have hstart : ShortInv .initial := by
    refine ⟨readInv_initial, fun q calls hsession hbody => ?_⟩
    cases hsession
    cases hbody
  refine (h.along (fun t r t' ht hC hstep => ht.step hC hstep) hstart).mono fun t ht => ?_
  exact ⟨ht.inv.len, fun q calls hsession => (ht.inv.opened q calls hsession).askFits⟩

/-- A header with the right magic and the largest `body_len`. -/
def hugeHeader : Bytes :=
  List.replicate 24 0 ++ [0x07, 0x25, 0x20, 0xfb] ++ [0, 0, 0, 0] ++ [0xff, 0xff, 0xff, 0xff]

/-- After it the socket is asked for 2^64 - 1 octets. -/
theorem huge_body_len_not_fits :
    ¬ Along (RoomStep fun _ _ _ => 0) ReadFits .initial [.data hugeHeader] := by
  intro h
  let q : Framing :=
    { querybuf := hugeHeader, currentState := .body, bytesExpected := 2 ^ 32 - 1,
      bytesProcessed := 36 }
  have hstep : RoomStep (fun _ _ _ => 0) .initial (.data hugeHeader)
      ⟨.opened q [], (Sds.sdsempty.sdsMakeRoomFor 36).sdsIncrLen 36, 36⟩ := by
    refine ⟨{}, [], rfl, ⟨⟨by decide, by decide⟩, ?_⟩, by decide, by decide⟩
    have hiter : processQueryIter (logged fun _ _ _ => 0) (Framing.append {} hugeHeader, []) =
        .inl (q, []) := by decide
    exact (yields_iff_of_again hiter).mpr (processQueryBuffer_idle (by decide))
  exact asked_ne (by decide) (by decide) ((h.2 _ hstep).head.2 q [] rfl).1

end XrtcServer.Signaling
