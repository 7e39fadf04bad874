import XrtcServer.Signaling.Query

/-!
# A request however it is read

The kernel hands out the octets of a request in pieces that need not end where the header or the
body does. `Progress` relates what has come to the state of the connection, and the file proves
that `_process_request` sees the same header and body for every division.
-/

namespace XrtcServer.Signaling
open XrtcServer.Base XrtcServer.Core

variable {request : List Call → Bytes → Bytes → Int} {q : Framing} {s s' t : Session}
  {header body l chunk : Bytes} {rs : List ReadResult}

/-- The octets that a read brought. -/
def ReadResult.octets : ReadResult → Bytes
  | .data chunk => chunk
  | _ => []

/-- The octets that some reads brought. -/
def received (rs : List ReadResult) : Bytes := rs.flatMap ReadResult.octets

lemma received_snoc (rs : List ReadResult) (r : ReadResult) :
    received (rs ++ [r]) = received rs ++ r.octets := by
  simp [received]

/-- The calls of `_process_request` on a connection are these. -/
def Session.Called (calls : List Call) : Session → Prop
  | .opened _ calls' => calls' = calls
  | .closed calls' => calls' = calls
  | .spinning => False

/-- The connection after the octets `l` of a request: it waits for more, or the request came whole
and was kept or refused. -/
inductive Progress (request : List Call → Bytes → Bytes → Int) (header body : Bytes) :
    Bytes → Session → Prop
  | waiting {l : Bytes} (q : Framing) (hbuf : q.querybuf = l) (hphase : Phase request q []) :
      Progress request header body l (.opened q [])
  | kept {l : Bytes} (q : Framing) (hl : l = header ++ body)
      (hphase : Phase request q [(header, body)]) :
      Progress request header body l (.opened q [(header, body)])
  | refused {l : Bytes} (hl : l = header ++ body) :
      Progress request header body l (.closed [(header, body)])

lemma Phase.eq_of_wouldBlock {calls : List Call} (h : Phase request q calls)
    (hs : ReadStep request (.opened q calls) .wouldBlock s) : s = .opened q calls := by
  have hprocessed : Processed request q calls s := hs.2
  rw [hprocessed.eq_of_returns (processQueryBuffer_idle h.idle), if_pos rfl]

lemma ofBytes_of_part (hheader : header.length = xheadSize) (hl : l <+: header ++ body)
    (hlen : xheadSize ≤ l.length) : XHead.ofBytes l = XHead.ofBytes header := by
  obtain ⟨rest, hrest⟩ := List.prefix_of_prefix_length_le (List.prefix_append header body) hl
    (hheader ▸ hlen)
  rw [← hrest, XHead.ofBytes_append (Nat.le_of_eq hheader.symm)]

lemma slices_of_querybuf (hheader : header.length = xheadSize)
    (hbody : (XHead.ofBytes header).bodyLen = body.length) (hq : q.querybuf = header ++ body) :
    q.header = header ∧ q.body = body := by
  have hhead : XHead.ofBytes q.querybuf = XHead.ofBytes header := by
    rw [hq, XHead.ofBytes_append (Nat.le_of_eq hheader.symm)]
  constructor
  · rw [Framing.header, hq, List.take_left' hheader]
  · rw [Framing.body, hhead, hbody, hq, List.drop_left' hheader, List.take_length]

lemma eq_of_part_length (hl : l <+: header ++ body) (hlen : header.length + body.length ≤ l.length) :
    l = header ++ body :=
  hl.eq_of_length_le (by rw [List.length_append]; exact hlen)

section right
variable (hheader : header.length = xheadSize)
  (hbody : (XHead.ofBytes header).bodyLen = body.length)
include hheader hbody

lemma progress_of_body (hq : q.querybuf <+: header ++ body) (hstate : q.currentState = .body)
    (hprocessed : q.bytesProcessed = xheadSize)
    (hexpected : q.bytesExpected = (XHead.ofBytes q.querybuf).bodyLen)
    (hhead : xheadSize ≤ q.querybuf.length) (hs : Processed request q [] s) :
    Progress request header body q.querybuf s := by
  have hsize : xheadSize = 36 := rfl
  have hlen := hq.length_le
  rw [List.length_append, hheader] at hlen
  have hexpected' : q.bytesExpected = body.length := by
    rw [hexpected, ofBytes_of_part hheader hq hhead, hbody]
  rcases eq_of_body hstate hprocessed (Or.inl (by omega)) hs with
    ⟨hshort, rfl⟩ | ⟨hfull, hcall⟩
  · exact .waiting q rfl (.body hstate hprocessed hexpected hhead hshort)
  · have hwhole := eq_of_part_length hq (by omega)
    obtain ⟨hheader', hbody'⟩ := slices_of_querybuf hheader hbody hwhole
    rw [hheader', hbody'] at hcall
    rcases hcall with ⟨hret, hlt, rfl⟩ | ⟨-, rfl⟩
    · have hphase : Phase request { q with bytesProcessed := 65535 } [(q.header, q.body)] :=
        .done (q := { q with bytesProcessed := 65535 }) hstate rfl hexpected hfull hlt
          (by rw [← hheader', ← hbody'] at hret; exact hret)
      rw [hheader', hbody'] at hphase
      exact .kept _ hwhole hphase
    · exact .refused hwhole

lemma Progress.step (hmagic : (XHead.ofBytes header).magicNum = xheadMagicNum) {r : ReadResult}
    (h : Progress request header body l s) (hl : l ++ r.octets <+: header ++ body)
    (hr : r ≠ .failed) (hs : ReadStep request s r s') :
    Progress request header body (l ++ r.octets) s' := by
  have hsize : xheadSize = 36 := rfl
  cases r with
  | failed => exact absurd rfl hr
  | wouldBlock =>
    change Progress request header body (l ++ []) s'
    rw [List.append_nil]
    cases h with
    | waiting q hbuf hphase =>
      rw [hphase.eq_of_wouldBlock hs]
      exact .waiting q hbuf hphase
    | kept q hwhole hphase =>
      rw [hphase.eq_of_wouldBlock hs]
      exact .kept q hwhole hphase
    | refused => exact hs.elim
  | data chunk =>
    rw [ReadResult.octets] at hl ⊢
    cases h with
    | refused => exact hs.elim
    | kept q hwhole hphase =>
      obtain ⟨⟨hpos, -⟩, -⟩ := hs
      have hle := hl.length_le
      rw [List.length_append, hwhole] at hle
      omega
    | waiting q hbuf hphase =>
      obtain ⟨hfits, hs⟩ := hs
      have hs : Processed request (q.append chunk) [] s' := hs
      have hbuf' : (q.append chunk).querybuf = l ++ chunk := by
        rw [Framing.querybuf_append, hbuf]
      rw [← hbuf'] at hl ⊢
      cases hphase with
      | head hstate hprocessed hexpected hlt =>
        rcases eq_of_head (q := q.append chunk) hstate hprocessed hexpected hs with
          ⟨hlen, rfl⟩ | ⟨hlen, ⟨hwrong, -⟩ | ⟨-, hs'⟩⟩
        · exact .waiting _ rfl (.head hstate hprocessed hexpected hlen)
        · rw [ofBytes_of_part hheader hl hlen] at hwrong
          exact absurd hmagic hwrong
        · exact progress_of_body hheader hbody (q := (q.append chunk).withHead) hl rfl rfl rfl hlen
            hs'
      | body hstate hprocessed hexpected hhead hlt =>
        refine progress_of_body hheader hbody hl hstate hprocessed ?_ ?_ hs
        · rw [Framing.bytesExpected_append, Framing.querybuf_append,
            XHead.ofBytes_append hhead, hexpected]
        · rw [Framing.querybuf_append, List.length_append]
          omega

lemma Progress.called (h : Progress request header body l s) (hl : l <+: header ++ body) :
    if l = header ++ body then s.Called [(header, body)] else ∃ q, s = .opened q [] := by
  have hsize : xheadSize = 36 := rfl
  cases h with
  | kept q hwhole hphase =>
    rw [if_pos hwhole]
    rfl
  | refused hwhole =>
    rw [if_pos hwhole]
    rfl
  | waiting q hbuf hphase =>
    have hne : l ≠ header ++ body := by
      intro hwhole
      have hlen := congrArg List.length hwhole
      rw [List.length_append, hheader] at hlen
      rw [← hbuf] at hl hlen
      cases hphase with
      | head _ _ _ hlt => omega
      | body _ _ hexpected hhead hlt =>
        rw [hexpected, ofBytes_of_part hheader hl hhead, hbody] at hlt
        omega
    rw [if_neg hne]
    exact ⟨q, rfl⟩

end right

/-- The connection after the octets `l` of a request with a wrong magic. -/
inductive Rejects (request : List Call → Bytes → Bytes → Int) : Bytes → Session → Prop
  | waiting {l : Bytes} (q : Framing) (hbuf : q.querybuf = l) (hstate : q.currentState = .head)
      (hprocessed : q.bytesProcessed = 0) (hexpected : q.bytesExpected = xheadSize)
      (hlen : l.length < xheadSize) : Rejects request l (.opened q [])
  | closed {l : Bytes} (hlen : xheadSize ≤ l.length) : Rejects request l (.closed [])

lemma Rejects.step (hheader : header.length = xheadSize)
    (hmagic : (XHead.ofBytes header).magicNum ≠ xheadMagicNum) {r : ReadResult}
    (h : Rejects request l s) (hl : l ++ r.octets <+: header ++ body) (hr : r ≠ .failed)
    (hs : ReadStep request s r s') : Rejects request (l ++ r.octets) s' := by
  cases h with
  | closed => exact hs.elim
  | waiting q hbuf hstate hprocessed hexpected hlen =>
    cases r with
    | failed => exact absurd rfl hr
    | wouldBlock =>
      have hphase : Phase request q [] := .head hstate hprocessed hexpected (hbuf ▸ hlen)
      change Rejects request (l ++ []) s'
      rw [hphase.eq_of_wouldBlock hs, List.append_nil]
      exact .waiting q hbuf hstate hprocessed hexpected hlen
    | data chunk =>
      have hl : l ++ chunk <+: header ++ body := hl
      have hs : Processed request (q.append chunk) [] s' := hs.2
      have hbuf' : (q.append chunk).querybuf = l ++ chunk := by
        rw [Framing.querybuf_append, hbuf]
      rcases eq_of_head (q := q.append chunk) hstate hprocessed hexpected hs with
        ⟨hshort, rfl⟩ | ⟨hfull, ⟨-, rfl⟩ | ⟨hright, -⟩⟩
      · exact .waiting _ hbuf' hstate hprocessed hexpected (hbuf' ▸ hshort)
      · exact .closed (hbuf' ▸ hfull)
      · rw [hbuf'] at hright hfull
        rw [ofBytes_of_part hheader hl hfull] at hright
        exact absurd hright hmagic

/-- A step rule over the octets that reads bring is a rule over the reads. -/
lemma received_invariant {J : Bytes → Session → Prop} {whole : Bytes}
    (hrun : Leads (ReadStep request) s rs t) (hs : J [] s)
    (hstep : ∀ l s r s', J l s → l ++ r.octets <+: whole → r ≠ .failed →
      ReadStep request s r s' → J (l ++ r.octets) s')
    (hok : .failed ∉ rs) (hpart : received rs <+: whole) : J (received rs) t := by
  induction hrun with
  | nil => exact hs
  | @snoc rs t u r h hR ih =>
    rw [received_snoc] at hpart ⊢
    rw [List.mem_append, not_or, List.mem_singleton] at hok
    exact hstep _ _ _ _ (ih hok.1 ((List.prefix_append _ _).trans hpart)) hpart
      (Ne.symm hok.2) hR

/-- The calls for a request with the right magic, whatever the reads bring at a time. -/
lemma called_of_reads (hheader : header.length = xheadSize)
    (hmagic : (XHead.ofBytes header).magicNum = xheadMagicNum)
    (hbody : (XHead.ofBytes header).bodyLen = body.length)
    (hrun : Leads (ReadStep request) (.opened {} []) rs t) (hok : .failed ∉ rs)
    (hpart : received rs <+: header ++ body) :
    if received rs = header ++ body then t.Called [(header, body)] else ∃ q, t = .opened q [] := by
  have hstart : Progress request header body [] (.opened {} []) :=
    .waiting {} rfl (.head rfl rfl rfl (by decide))
  have hprogress := received_invariant hrun hstart
    (fun l s r s' h hl hr hs => h.step hheader hbody hmagic hl hr hs) hok hpart
  exact hprogress.called hheader hbody hpart

/-- However the octets of a request are divided, `_process_request` is called once with its header and
its body when the last octet has come, and not before; with a wrong magic it is never called and the
connection is closed when the header has come. -/
theorem request_called_once (hheader : header.length = xheadSize)
    (hrun : Leads (ReadStep request) (.opened {} []) rs t) (hok : .failed ∉ rs)
    (hpart : received rs <+: header ++ body) :
    ((XHead.ofBytes header).magicNum = xheadMagicNum →
      (XHead.ofBytes header).bodyLen = body.length →
        if received rs = header ++ body then t.Called [(header, body)]
        else ∃ q, t = .opened q []) ∧
    ((XHead.ofBytes header).magicNum ≠ xheadMagicNum →
      if xheadSize ≤ (received rs).length then t = .closed [] else ∃ q, t = .opened q []) := by
  refine ⟨fun hmagic hbody => called_of_reads hheader hmagic hbody hrun hok hpart,
    fun hmagic => ?_⟩
  have hstart : Rejects request [] (.opened {} []) :=
    .waiting {} rfl rfl rfl rfl (by decide)
  have hrejects := received_invariant hrun hstart
    (fun l s r s' h hl hr hs => h.step hheader hmagic hl hr hs) hok hpart
  cases hrejects with
  | waiting q _ _ _ _ hlen =>
    rw [if_neg (Nat.not_le_of_lt hlen)]
    exact ⟨q, rfl⟩
  | closed hlen => rw [if_pos hlen]

/-- A header with the right magic and a `body_len` of 1. -/
def shortHeader : Bytes :=
  List.replicate 24 0 ++ [0x07, 0x25, 0x20, 0xfb] ++ [0, 0, 0, 0] ++ [1, 0, 0, 0]

theorem shortHeader_called_once :
    ∃ t, Leads (ReadStep fun _ _ _ => 0) (.opened {} [])
      [.data (shortHeader.take 35), .wouldBlock, .data (shortHeader.drop 35), .data [123]] t ∧
        t.Called [(shortHeader, [123])] := by
  let q₁ : Framing := { querybuf := shortHeader.take 35 }
  let q₂ : Framing :=
    { querybuf := shortHeader, currentState := .body, bytesExpected := 1, bytesProcessed := 36 }
  have hstep₁ : ReadStep (fun _ _ _ => 0) (.opened {} []) (.data (shortHeader.take 35))
      (.opened q₁ []) :=
    ⟨by decide, processQueryBuffer_idle (by decide)⟩
  have hstep₂ : ReadStep (fun _ _ _ => 0) (.opened q₁ []) .wouldBlock (.opened q₁ []) :=
    ⟨by decide, processQueryBuffer_idle (by decide)⟩
  have hstep₃ : ReadStep (fun _ _ _ => 0) (.opened q₁ []) (.data (shortHeader.drop 35))
      (.opened q₂ []) := by
    refine ⟨by decide, ?_⟩
    have hiter : processQueryIter (logged fun _ _ _ => 0) (q₁.append (shortHeader.drop 35), []) =
        .inl (q₂, []) := by decide
    exact (yields_iff_of_again hiter).mpr (processQueryBuffer_idle (by decide))
  obtain ⟨t, ht⟩ := exists_processed (fun _ _ _ => 0) (q₂.append [123]) []
  have hstep₄ : ReadStep (fun _ _ _ => 0) (.opened q₂ []) (.data [123]) t := ⟨by decide, ht⟩
  have hrun := (((Leads.nil.snoc hstep₁).snoc hstep₂).snoc hstep₃).snoc hstep₄
  refine ⟨t, hrun, ?_⟩
  have hheader : shortHeader.length = xheadSize := rfl
  have hpart : received [.data (shortHeader.take 35), .wouldBlock, .data (shortHeader.drop 35),
      .data [123]] <+: shortHeader ++ [123] := by decide
  have hcalled := (request_called_once hheader hrun (by decide) hpart).1 rfl rfl
  rwa [if_pos (by decide)] at hcalled

end XrtcServer.Signaling
