import XrtcServer.Core.Run
import XrtcServer.Signaling.Connection

/-!
# One request on a connection

After a request `_process_query_buffer` sets `bytes_processed` to 65535 and stays in the state of a
body. This stops it as long as the buffer holds less than 65535 octets more than a body has.
-/

namespace XrtcServer.Signaling
open XrtcServer.Base XrtcServer.Core

abbrev Call := Bytes × Bytes

/-- An arbitrary `_process_request`, whose result may depend on all calls before, with a log of its
calls. -/
def logged (request : List Call → Bytes → Bytes → Int) (calls : List Call) (header body : Bytes) :
    Int × List Call :=
  (request calls header body, calls ++ [(header, body)])

/-- A connection and the calls of `_process_request` on it so far. -/
inductive Session
  | opened (q : Framing) (calls : List Call)
  | closed (calls : List Call)
  | spinning

variable {request : List Call → Bytes → Bytes → Int} {q q' : Framing} {calls calls' : List Call}
  {s s' : Session} {ret : Int} {chunk : Bytes}

/-- What becomes of the connection when `_read_query` processes its buffer: it stays open, it is
closed, or the loop never leaves. -/
def Processed (request : List Call → Bytes → Bytes → Int) (q : Framing) (calls : List Call) :
    Session → Prop
  | .opened q' calls' => ProcessQueryBuffer (logged request) q calls (0, q', calls')
  | .closed calls' => ∃ ret q', ret ≠ 0 ∧ ProcessQueryBuffer (logged request) q calls (ret, q', calls')
  | .spinning => ¬ Leaves (processQueryIter (logged request)) (q, calls)

/-- One `_read_query`, by what the socket brings. -/
def ReadStep (request : List Call → Bytes → Bytes → Int) :
    Session → ReadResult → Session → Prop
  | .opened q calls, r, s' =>
    r.Fits q ∧
      match q.receive r with
      | none => s' = .closed calls
      | some q => Processed request q calls s'
  | _, _, _ => False

/-- The condition on a read: it leaves less than 65535 octets more in the buffer than the body has,
or the request that the buffer holds is refused. -/
def StaysShort (request : List Call → Bytes → Bytes → Int) : Session → ReadResult → Prop
  | .opened q _, .data chunk =>
    let q := q.append chunk
    q.querybuf.length < 65535 + (XHead.ofBytes q.querybuf).bodyLen ∨ request [] q.header q.body ≠ 0
  | _, _ => True

/-- The connection waits for the rest of the header or of the body, or it is done with its only
request. -/
inductive Phase (request : List Call → Bytes → Bytes → Int) (q : Framing) : List Call → Prop
  | head (hstate : q.currentState = .head) (hprocessed : q.bytesProcessed = 0)
      (hexpected : q.bytesExpected = xheadSize) (hlen : q.querybuf.length < xheadSize) :
      Phase request q []
  | body (hstate : q.currentState = .body) (hprocessed : q.bytesProcessed = xheadSize)
      (hexpected : q.bytesExpected = (XHead.ofBytes q.querybuf).bodyLen)
      (hhead : xheadSize ≤ q.querybuf.length)
      (hlen : q.querybuf.length < xheadSize + q.bytesExpected) : Phase request q []
  | done (hstate : q.currentState = .body) (hprocessed : q.bytesProcessed = 65535)
      (hexpected : q.bytesExpected = (XHead.ofBytes q.querybuf).bodyLen)
      (hhead : xheadSize + q.bytesExpected ≤ q.querybuf.length)
      (hlen : q.querybuf.length < 65535 + q.bytesExpected)
      (hret : request [] q.header q.body = 0) : Phase request q [(q.header, q.body)]

def Session.Inv (request : List Call → Bytes → Bytes → Int) : Session → Prop
  | .opened q calls => Phase request q calls
  | .closed calls => calls.length ≤ 1
  | .spinning => False

lemma Phase.length_le (h : Phase request q calls) : calls.length ≤ 1 := by
  cases h <;> simp

lemma Processed.eq_of_returns (hs : Processed request q calls s)
    (h : ProcessQueryBuffer (logged request) q calls (ret, q', calls')) :
    s = if ret = 0 then .opened q' calls' else .closed calls' := by
  cases s with
  | opened q₁ calls₁ =>
    have heq := Yields.unique h hs
    cases heq
    rfl
  | closed calls₁ =>
    obtain ⟨ret₁, q₁, hret, hs⟩ := hs
    have heq := Yields.unique h hs
    cases heq
    rw [if_neg hret]
  | spinning => exact absurd ⟨_, h⟩ hs

lemma processQueryBuffer_idle (hlen : q.querybuf.length < q.bytesProcessed + q.bytesExpected) :
    ProcessQueryBuffer (logged request) q calls (0, q, calls) := by
  refine (yields_iff_of_exit ?_).mpr rfl
  rw [processQueryIter, if_neg (by omega)]

lemma processQueryIter_request (request : List Call → Bytes → Bytes → Int) (calls : List Call)
    (hstate : q.currentState = .body)
    (hlen : q.bytesProcessed + q.bytesExpected ≤ q.querybuf.length) :
    processQueryIter (logged request) (q, calls) =
      if request calls q.header q.body ≠ 0 then .inr (-1, q, calls ++ [(q.header, q.body)])
      else .inl ({ q with bytesProcessed := 65535 }, calls ++ [(q.header, q.body)]) := by
  rw [processQueryIter, if_pos hlen]
  simp only [hstate, logged]

lemma processed_iff_of_again (h : processQueryIter (logged request) (q, calls) = .inl (q', calls')) :
    Processed request q calls s ↔ Processed request q' calls' s := by
  cases s with
  | opened q₁ calls₁ => exact yields_iff_of_again h
  | closed calls₁ =>
    refine exists_congr fun ret => exists_congr fun q₁ => and_congr_right fun _ => ?_
    exact yields_iff_of_again h
  | spinning => exact not_congr (exists_congr fun r => yields_iff_of_again h)

/-- What becomes of the connection when the rest of the body is awaited: it waits on, or the request
is processed and either kept or refused. -/
lemma eq_of_body (hstate : q.currentState = .body) (hprocessed : q.bytesProcessed = xheadSize)
    (hshort : q.querybuf.length < 65535 + q.bytesExpected ∨ request [] q.header q.body ≠ 0)
    (hs : Processed request q [] s) :
    q.querybuf.length < xheadSize + q.bytesExpected ∧ s = .opened q [] ∨
      xheadSize + q.bytesExpected ≤ q.querybuf.length ∧
        (request [] q.header q.body = 0 ∧ q.querybuf.length < 65535 + q.bytesExpected ∧
            s = .opened { q with bytesProcessed := 65535 } [(q.header, q.body)] ∨
          request [] q.header q.body ≠ 0 ∧ s = .closed [(q.header, q.body)]) := by
  by_cases hlen : q.bytesProcessed + q.bytesExpected ≤ q.querybuf.length
  · have hiter := processQueryIter_request request [] hstate hlen
    refine Or.inr ⟨hprocessed ▸ hlen, ?_⟩
    by_cases hret : request [] q.header q.body = 0
    · rw [if_neg (not_not.mpr hret)] at hiter
      have hlt := hshort.resolve_right (not_not.mpr hret)
      have hreturns : ProcessQueryBuffer (logged request) q []
          (0, { q with bytesProcessed := 65535 }, [(q.header, q.body)]) :=
        (yields_iff_of_again hiter).mpr (processQueryBuffer_idle hlt)
      refine Or.inl ⟨hret, hlt, ?_⟩
      rw [hs.eq_of_returns hreturns, if_pos rfl]
    · rw [if_pos hret] at hiter
      refine Or.inr ⟨hret, ?_⟩
      rw [hs.eq_of_returns ((yields_iff_of_exit hiter).mpr rfl), if_neg (by decide)]
      rfl
  · have hlen' : q.querybuf.length < q.bytesProcessed + q.bytesExpected := by omega
    refine Or.inl ⟨hprocessed ▸ hlen', ?_⟩
    rw [hs.eq_of_returns (processQueryBuffer_idle hlen'), if_pos rfl]

lemma inv_of_body (hstate : q.currentState = .body) (hprocessed : q.bytesProcessed = xheadSize)
    (hexpected : q.bytesExpected = (XHead.ofBytes q.querybuf).bodyLen)
    (hhead : xheadSize ≤ q.querybuf.length)
    (hshort : q.querybuf.length < 65535 + q.bytesExpected ∨ request [] q.header q.body ≠ 0)
    (hs : Processed request q [] s) : s.Inv request := by
  rcases eq_of_body hstate hprocessed hshort hs with
    ⟨hlen, rfl⟩ | ⟨hlen, ⟨hret, hlt, rfl⟩ | ⟨hret, rfl⟩⟩
  · exact .body hstate hprocessed hexpected hhead hlen
  · exact .done (q := { q with bytesProcessed := 65535 }) hstate rfl hexpected hlen hlt hret
  · simp [Session.Inv]

/-- The connection has taken in the header in `q`. -/
def Framing.withHead (q : Framing) : Framing :=
  { q with
    currentState := .body
    bytesProcessed := xheadSize
    bytesExpected := (XHead.ofBytes q.querybuf).bodyLen }

lemma processQueryIter_head (request : List Call → Bytes → Bytes → Int) (calls : List Call)
    (hstate : q.currentState = .head)
    (hlen : q.bytesProcessed + q.bytesExpected ≤ q.querybuf.length)
    (hmagic : (XHead.ofBytes q.querybuf).magicNum = xheadMagicNum) :
    processQueryIter (logged request) (q, calls) = .inl (q.withHead, calls) := by
  rw [processQueryIter, if_pos hlen]
  simp only [hstate, hmagic, ne_eq, not_true_eq_false, if_false]
  rfl

/-- What becomes of the connection when the rest of the header is awaited: it waits on, its magic is
refused, or it goes on to the body. -/
lemma eq_of_head (hstate : q.currentState = .head) (hprocessed : q.bytesProcessed = 0)
    (hexpected : q.bytesExpected = xheadSize) (hs : Processed request q [] s) :
    q.querybuf.length < xheadSize ∧ s = .opened q [] ∨
      xheadSize ≤ q.querybuf.length ∧
        ((XHead.ofBytes q.querybuf).magicNum ≠ xheadMagicNum ∧ s = .closed [] ∨
          (XHead.ofBytes q.querybuf).magicNum = xheadMagicNum ∧
            Processed request q.withHead [] s) := by
  by_cases hhead : xheadSize ≤ q.querybuf.length
  · have hguard : q.bytesProcessed + q.bytesExpected ≤ q.querybuf.length := by omega
    refine Or.inr ⟨hhead, ?_⟩
    by_cases hmagic : (XHead.ofBytes q.querybuf).magicNum = xheadMagicNum
    · have hiter := processQueryIter_head request [] hstate hguard hmagic
      exact Or.inr ⟨hmagic, (processed_iff_of_again hiter).mp hs⟩
    · have hiter : processQueryIter (logged request) (q, []) = .inr (-1, q, []) := by
        rw [processQueryIter, if_pos hguard]
        simp only [hstate, ne_eq, hmagic, not_false_eq_true, if_true]
      refine Or.inl ⟨hmagic, ?_⟩
      rw [hs.eq_of_returns ((yields_iff_of_exit hiter).mpr rfl), if_neg (by decide)]
  · refine Or.inl ⟨Nat.lt_of_not_le hhead, ?_⟩
    rw [hs.eq_of_returns (processQueryBuffer_idle (by omega)), if_pos rfl]

lemma inv_of_head (hstate : q.currentState = .head) (hprocessed : q.bytesProcessed = 0)
    (hexpected : q.bytesExpected = xheadSize) (hlen : q.querybuf.length < xheadSize + xheadSize)
    (hs : Processed request q [] s) : s.Inv request := by
  have hsize : xheadSize = 36 := rfl
  rcases eq_of_head hstate hprocessed hexpected hs with
    ⟨hhead, rfl⟩ | ⟨hhead, ⟨-, rfl⟩ | ⟨-, hs'⟩⟩
  · exact .head hstate hprocessed hexpected hhead
  · exact Nat.zero_le 1
  · have hshort : q.withHead.querybuf.length < 65535 + q.withHead.bytesExpected := by
      change q.querybuf.length < _
      omega
    exact inv_of_body (q := q.withHead) rfl rfl rfl hhead (Or.inl hshort) hs'

lemma Phase.idle (h : Phase request q calls) :
    q.querybuf.length < q.bytesProcessed + q.bytesExpected := by
  cases h <;> omega

lemma readLen_eq (h : q.bytesExpected < 2 ^ 31) : q.readLen = q.bytesExpected :=
  Int.bmod_eq_of_le (by omega) (by omega)

lemma ReadResult.Fits.length_le_of_head (h : (ReadResult.data chunk).Fits q)
    (hexpected : q.bytesExpected = xheadSize) : chunk.length ≤ xheadSize := by
  have hle : (chunk.length : Int) ≤ q.readLen := h.2
  rw [readLen_eq (hexpected ▸ by decide), hexpected] at hle
  exact Int.ofNat_le.mp hle

lemma Session.Inv.step {r : ReadResult} (h : s.Inv request) (hC : StaysShort request s r)
    (hs : ReadStep request s r s') : s'.Inv request := by
  cases s with
  | closed calls => exact hs.elim
  | spinning => exact hs.elim
  | opened q calls =>
    obtain ⟨hfits, hs⟩ := hs
    have hphase : Phase request q calls := h
    cases r with
    | failed =>
      have heq : s' = .closed calls := hs
      rw [heq]
      exact hphase.length_le
    | wouldBlock =>
      have hs : Processed request q calls s' := hs
      rw [hs.eq_of_returns (processQueryBuffer_idle hphase.idle), if_pos rfl]
      exact hphase
    | data chunk =>
      have hs : Processed request (q.append chunk) calls s' := hs
      have hlen : (q.append chunk).querybuf.length = q.querybuf.length + chunk.length :=
        List.length_append
      cases hphase with
      | head hstate hprocessed hexpected hlt =>
        have hread := hfits.length_le_of_head hexpected
        exact inv_of_head (q := q.append chunk) hstate hprocessed hexpected (by omega) hs
      | body hstate hprocessed hexpected hhead hlt =>
        have hsame := XHead.ofBytes_append hhead chunk
        have hexpected' : (q.append chunk).bytesExpected =
            (XHead.ofBytes (q.append chunk).querybuf).bodyLen := by
          rw [Framing.querybuf_append, hsame, Framing.bytesExpected_append, hexpected]
        refine inv_of_body (q := q.append chunk) hstate hprocessed hexpected' (by omega) ?_ hs
        rw [hexpected']
        exact hC
      | done hstate hprocessed hexpected hhead hlt hret =>
        have hle : xheadSize ≤ q.querybuf.length := by omega
        have hsame := XHead.ofBytes_append hle chunk
        have hheader := Framing.header_append hle chunk
        have hbody := Framing.body_append (hexpected ▸ hhead) chunk
        have hexpected' : (q.append chunk).bytesExpected =
            (XHead.ofBytes (q.append chunk).querybuf).bodyLen := by
          rw [Framing.querybuf_append, hsame, Framing.bytesExpected_append, hexpected]
        have hret' : request [] (q.append chunk).header (q.append chunk).body = 0 := by
          rw [hheader, hbody, hret]
        have hshort : (q.append chunk).querybuf.length < 65535 + (q.append chunk).bytesExpected := by
          rw [hexpected']
          exact hC.resolve_right (not_not.mpr hret')
        have hidle : (q.append chunk).querybuf.length <
            (q.append chunk).bytesProcessed + (q.append chunk).bytesExpected := by
          rw [Framing.bytesProcessed_append, hprocessed]
          exact hshort
        rw [hs.eq_of_returns (processQueryBuffer_idle hidle), if_pos rfl, ← hheader, ← hbody]
        exact .done hstate hprocessed hexpected' (by simp only [Framing.bytesExpected_append]; omega)
          hshort hret'

lemma exists_processed (request : List Call → Bytes → Bytes → Int) (q : Framing)
    (calls : List Call) : ∃ s, Processed request q calls s := by
  by_cases hleaves : Leaves (processQueryIter (logged request)) (q, calls)
  · obtain ⟨⟨ret, q', calls'⟩, hr⟩ := hleaves
    by_cases hret : ret = 0
    · subst hret
      exact ⟨.opened q' calls', hr⟩
    · exact ⟨.closed calls', ret, q', hret, hr⟩
  · exact ⟨.spinning, hleaves⟩

end XrtcServer.Signaling
