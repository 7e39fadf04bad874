import XrtcServer.Signaling.ConnTable

/-!
# Offers go back to the connection that asked

A response names its connection by an address and an fd, and the only check is that `_conns` has
this address for this fd. It goes to the connection that asked, or is dropped when that one is
closed, in every run in which no new connection takes both from a closed one while a response for
the closed one is on its way.
-/

namespace XrtcServer.Signaling
open XrtcServer.Base XrtcServer.Core SignalingWorker

variable {json : JsonLib} {notify : Nat → Bool} {connectionTimeout : Nat}
  {w w' : SignalingWorker} {p : Addr} {c c' : TCPConnection} {m : Sent} {e : WorkerEvent}
  {header body beyond : Bytes} {ret : Int} {now : Nat}

/-- Every reply that `_response_server_offer` added went to the connection that sent the request and
was built from the header of the request, and the next response is dropped if its connection is
closed. -/
def GoesHome (json : JsonLib) (w : SignalingWorker) : Prop :=
  (∀ a ∈ w.answers, a.receiver = a.sent.sender ∧ a.header = a.sent.header) ∧
    ∀ m qMsg, w.qMsg = m :: qMsg → m.sender ∈ w.closed →
      ∀ beyond, w.processRtcMsg json beyond = some { w with qMsg }

/-- A message that may still come back as a response. -/
def Pending (w : SignalingWorker) (m : Sent) : Prop := m ∈ w.rtcMsgs ∨ m ∈ w.qMsg

/-- The condition on an event: a connection is not accepted with the fd and the address that a
pending message names. -/
def NoReuse (w : SignalingWorker) : WorkerEvent → Prop
  | .newConn fd p _ => ∀ m, Pending w m → ¬ (m.msg.conn = some p ∧ m.msg.fd = fd)
  | _ => True

/-- The connection `c` sent the request of `m`. -/
def SentBy (m : Sent) (c : TCPConnection) : Prop :=
  c.serial = m.sender ∧ xheadSize ≤ c.querybuf.length ∧ c.header = m.header

structure Inv (w : SignalingWorker) : Prop extends Filed w where
  serial : ∀ p c, w.heap p = some c → c.serial < w.accepted ∧ c.serial ∉ w.closed
  closed_lt : ∀ n ∈ w.closed, n < w.accepted
  unique : ∀ p q c d, w.heap p = some c → w.heap q = some d → c.serial = d.serial → p = q
  framing : ∀ p c, w.heap p = some c → c.currentState = .body → xheadSize ≤ c.bytesProcessed
  pending : ∀ m, Pending w m → ∀ p c, m.msg.conn = some p → w.heap p = some c →
    (c.fd : Int) = m.msg.fd → SentBy m c
  answers : ∀ a ∈ w.answers, a.receiver = a.sent.sender ∧ a.header = a.sent.header

lemma inv_initial : Inv initial := by
  refine ⟨filed_initial, ?_, ?_, ?_, ?_, ?_, ?_⟩ <;> simp [initial, Pending]

lemma Inv.setConn (h : Inv w) (hp : w.heap p = some c) (hfd : c'.fd = c.fd)
    (hserial : c'.serial = c.serial)
    (hframing : c'.currentState = .body → xheadSize ≤ c'.bytesProcessed)
    (hsent : ∀ m, SentBy m c → SentBy m c') : Inv (w.setConn p c') where
  toFiled := h.toFiled.congr (sameTable_setConn hp hfd)
  serial q d hq := by
    rcases update_some_eq_some hq with ⟨rfl, rfl⟩ | ⟨-, hq⟩
    · rw [hserial]
      exact h.serial q c hp
    · exact h.serial q d hq
  closed_lt := h.closed_lt
  unique q₁ q₂ d₁ d₂ h₁ h₂ heq := by
    rcases update_some_eq_some h₁ with ⟨rfl, rfl⟩ | ⟨-, hq₁⟩
    · rcases update_some_eq_some h₂ with ⟨rfl, rfl⟩ | ⟨-, hq₂⟩
      · rfl
      · exact h.unique _ _ c d₂ hp hq₂ (hserial ▸ heq)
    · rcases update_some_eq_some h₂ with ⟨rfl, rfl⟩ | ⟨-, hq₂⟩
      · exact h.unique _ _ d₁ c hq₁ hp (heq.trans hserial)
      · exact h.unique _ _ d₁ d₂ hq₁ hq₂ heq
  framing q d hq := by
    rcases update_some_eq_some hq with ⟨rfl, rfl⟩ | ⟨-, hq⟩
    · exact hframing
    · exact h.framing q d hq
  pending m hm q d hconn hq hdfd := by
    rcases update_some_eq_some hq with ⟨rfl, rfl⟩ | ⟨-, hq⟩
    · exact hsent m (h.pending m hm q c hconn hp (hfd ▸ hdfd))
    · exact h.pending m hm q d hconn hq hdfd
  answers := h.answers

lemma Inv.addReply (h : Inv w) (hp : w.heap p = some c) (reply : Reply) :
    Inv (w.addReply p c reply) :=
  h.setConn hp rfl rfl (h.framing p c hp) fun _ hm => hm

lemma Inv.closeConn (h : Inv w) (hw : w.closeConn p = some w') : Inv w' := by
  have hfiled := h.toFiled.closeConn hw
  obtain ⟨c, hp, -, rfl⟩ := closeConn_eq_some hw
  refine ⟨hfiled, ?serial, ?closed_lt, ?unique, ?framing, ?pending, h.answers⟩
  case serial =>
    intro q d hq
    obtain ⟨hqp, hq⟩ := update_none_eq_some hq
    obtain ⟨hlt, hnot⟩ := h.serial q d hq
    refine ⟨hlt, fun hmem => ?_⟩
    rcases List.mem_cons.mp hmem with heq | hmem
    · exact hqp (h.unique q p d c hq hp heq)
    · exact hnot hmem
  case closed_lt =>
    intro n hn
    rcases List.mem_cons.mp hn with rfl | hn
    · exact (h.serial p c hp).1
    · exact h.closed_lt n hn
  case unique =>
    intro q₁ q₂ d₁ d₂ h₁ h₂
    exact h.unique q₁ q₂ d₁ d₂ (update_none_eq_some h₁).2 (update_none_eq_some h₂).2
  case framing =>
    intro q d hq
    exact h.framing q d (update_none_eq_some hq).2
  case pending =>
    intro m hm q d hconn hq
    exact h.pending m hm q d hconn (update_none_eq_some hq).2

/-- A connection that is accepted while no pending message names its fd and its address. -/
lemma Inv.newConn {fd : Int} (h : Inv w) (hp : w.heap p = none)
    (hfd : fd.toNat ∉ w.openFds)
    (hreuse : ∀ m, Pending w m → ¬ (m.msg.conn = some p ∧ m.msg.fd = fd))
    (hw : w.newConn fd p now = some w') : Inv w' := by
  have hfiled := h.toFiled.newConn hp hfd hw
  rcases newConn_eq_some hw with ⟨-, rfl⟩ | ⟨hpos, -, -, rfl⟩
  · exact h
  have hcast : (fd.toNat : Int) = fd := Int.toNat_of_nonneg hpos
  refine ⟨hfiled, ?serial, ?closed_lt, ?unique, ?framing, ?pending, h.answers⟩
  case serial =>
    intro q d hq
    rcases update_some_eq_some hq with ⟨rfl, rfl⟩ | ⟨-, hq⟩
    · exact ⟨Nat.lt_succ_self _, fun hmem => Nat.lt_irrefl _ (h.closed_lt _ hmem)⟩
    · exact ⟨Nat.lt_succ_of_lt (h.serial q d hq).1, (h.serial q d hq).2⟩
  case closed_lt => exact fun i hi => Nat.lt_succ_of_lt (h.closed_lt i hi)
  case unique =>
    intro q₁ q₂ d₁ d₂ h₁ h₂ heq
    rcases update_some_eq_some h₁ with ⟨rfl, rfl⟩ | ⟨-, hq₁⟩
    · rcases update_some_eq_some h₂ with ⟨rfl, rfl⟩ | ⟨-, hq₂⟩
      · rfl
      · exact absurd heq.symm (Nat.ne_of_lt (h.serial q₂ d₂ hq₂).1)
    · rcases update_some_eq_some h₂ with ⟨rfl, rfl⟩ | ⟨-, hq₂⟩
      · exact absurd heq (Nat.ne_of_lt (h.serial q₁ d₁ hq₁).1)
      · exact h.unique _ _ d₁ d₂ hq₁ hq₂ heq
  case framing =>
    intro q d hq
    rcases update_some_eq_some hq with ⟨rfl, rfl⟩ | ⟨-, hq⟩
    · intro hbody
      cases hbody
    · exact h.framing q d hq
  case pending =>
    intro m hm q d hconn hq hdfd
    rcases update_some_eq_some hq with ⟨rfl, rfl⟩ | ⟨-, hq⟩
    · exact absurd ⟨hconn, hdfd.symm.trans hcast⟩ (hreuse m hm)
    · exact h.pending m hm q d hconn hq hdfd

/-- What happens to the messages: none becomes pending that was not, up to what the RTC worker fills
in, except those that are checked. -/
lemma Inv.messages (h : Inv w) (hconns : w'.conns = w.conns)
    (hopenFds : w'.openFds = w.openFds) (hheap : w'.heap = w.heap)
    (haccepted : w'.accepted = w.accepted) (hclosed : w'.closed = w.closed)
    (hanswers : w'.answers = w.answers)
    (hpending : ∀ m, Pending w' m → ∀ p c, m.msg.conn = some p → w.heap p = some c →
      (c.fd : Int) = m.msg.fd → SentBy m c) : Inv w' := by
  constructor
  · exact h.toFiled.congr ⟨hconns, hopenFds, fun p => by rw [hheap]⟩
  · rw [hheap, haccepted, hclosed]
    exact h.serial
  · rw [haccepted, hclosed]
    exact h.closed_lt
  · rw [hheap]
    exact h.unique
  · rw [hheap]
    exact h.framing
  · rw [hheap]
    exact hpending
  · rw [hanswers]
    exact h.answers

lemma Inv.sendRtcMsg (h : Inv w)
    (hm : ∀ p c, m.msg.conn = some p → w.heap p = some c → SentBy m c) :
    Inv (w.sendRtcMsg notify m).2 := by
  refine h.messages rfl rfl rfl rfl rfl rfl fun m' hm' q d hconn hq hfd => ?_
  rcases hm' with hm' | hm'
  · rcases List.mem_append.mp hm' with hm' | hm'
    · exact h.pending m' (Or.inl hm') q d hconn hq hfd
    · obtain rfl := List.mem_singleton.mp hm'
      exact hm q d hconn hq
  · exact h.pending m' (Or.inr hm') q d hconn hq hfd

lemma Hands.inv {C : Sent → Prop} {r : Int × SignalingWorker} (hands : Hands notify w C r)
    (h : Inv w)
    (hC : ∀ m, C m → ∀ p c, m.msg.conn = some p → w.heap p = some c → SentBy m c) : Inv r.2 := by
  cases hands with
  | nothing => exact h
  | sent m hm => exact h.sendRtcMsg (hC m hm)

lemma inv_processRequest (h : Inv w) (hp : w.heap p = some c)
    (hlen : xheadSize ≤ c.querybuf.length)
    (hr : processRequest json notify p c w c.header body = .ok (ret, w')) :
    Inv w' ∧ ∃ d, w'.heap p = some d ∧ d.querybuf = c.querybuf := by
  have hhandled := handled_processRequest json notify p c w c.header body
  rw [hr] at hhandled
  cases hhandled with
  | refused => exact ⟨h, c, hp, rfl⟩
  | asked _ _ hands =>
    refine ⟨hands.inv h fun m hm q d hconn hq => ?_, c, by rw [hands.heap, hp], rfl⟩
    rw [hm.conn, Option.some.injEq] at hconn
    subst hconn
    rw [hp, Option.some.injEq] at hq
    subst hq
    exact ⟨hm.sender.symm, hlen, hm.header.symm⟩
  | replied _ hands =>
    refine ⟨?_, _, Function.update_self .., rfl⟩
    refine (hands.inv h fun m hm q d hconn => ?_).addReply (hands.heap ▸ hp) _
    cases hm.symm.trans hconn

/-- The state of the loop of `_process_query_buffer` for the connection at `p`. -/
structure LoopInv (p : Addr) (q : Framing) (w : SignalingWorker) : Prop where
  inv : Inv w
  framing : q.currentState = .body → xheadSize ≤ q.bytesProcessed
  conn : ∃ c, w.heap p = some c ∧ c.querybuf = q.querybuf

lemma LoopInv.request {q : Framing} (h : LoopInv p q w) (hlen : xheadSize ≤ q.querybuf.length)
    (hr : requestOf json notify p (.ok w) q.header body = (ret, .ok w')) : LoopInv p q w' := by
  obtain ⟨c, hp, hbuf⟩ := h.conn
  have hheader : q.header = c.header := by rw [Framing.header, Framing.header, hbuf]
  unfold requestOf at hr
  simp only [hp, hheader] at hr
  split at hr
  · cases hr
  · rename_i heq
    cases hr
    obtain ⟨hinv, d, hd, hdbuf⟩ := inv_processRequest h.inv hp (hbuf ▸ hlen) heq
    exact ⟨hinv, h.framing, d, hd, hdbuf.trans hbuf⟩

/-- The loop keeps the invariant, whatever it processes. -/
lemma LoopInv.loop {q q' : Framing} (h : LoopInv p q w)
    (hr : ProcessQueryBuffer (requestOf json notify p) q (.ok w) (ret, q', .ok w')) :
    LoopInv p q' w' := by
  refine Yields.invariant (I := fun s => ∀ w, s.2 = .ok w → LoopInv p s.1 w)
    (Q := fun r => ∀ w, r.2.2 = .ok w → LoopInv p r.2.1 w) ?_ ?_ ?_ hr w' rfl
  · rintro ⟨q, w₀⟩ ⟨q₁, w₁⟩ hI hnext w₂ rfl
    obtain ⟨hlen, ⟨-, -, rfl, rfl⟩ | ⟨hstate, hreq, rfl⟩⟩ := processQueryIter_eq_inl hnext
    · have hq := hI w₂ rfl
      exact ⟨hq.inv, fun _ => Nat.le_refl _, hq.conn⟩
    · obtain ⟨w, rfl⟩ := ok_of_requestOf hreq
      have hq : LoopInv p q w := hI w rfl
      have hafter := hq.request (Nat.le_trans (hq.framing hstate) (Nat.le_of_add_right_le hlen)) hreq
      have hsize : xheadSize ≤ 65535 := by decide
      exact ⟨hafter.inv, fun _ => hsize, hafter.conn⟩
  · rintro ⟨q, w₀⟩ ⟨ret, q₁, w₁⟩ hI hexit w₂ rfl
    obtain ⟨rfl, ⟨-, rfl, -⟩ | ⟨-, hlen, ⟨-, -, rfl⟩ | ⟨hstate, r, -, hreq⟩⟩⟩ :=
      processQueryIter_eq_inr hexit
    · exact hI w₂ rfl
    · exact hI w₂ rfl
    · obtain ⟨w, rfl⟩ := ok_of_requestOf hreq
      have hq : LoopInv p _ w := hI w rfl
      exact hq.request (Nat.le_trans (hq.framing hstate) (Nat.le_of_add_right_le hlen)) hreq
  · intro w₁ hw₁
    cases hw₁
    exact h

lemma SentBy.append (h : SentBy m c) {chunk : Bytes} {last : Nat} :
    SentBy m { c with toFraming := c.toFraming.append chunk, lastInteraction := last } := by
  obtain ⟨hserial, hlen, hheader⟩ := h
  refine ⟨hserial, ?_, (Framing.header_append hlen chunk).trans hheader⟩
  exact Nat.le_trans hlen (by simp)

lemma Inv.readQuery {fuel fd : Nat} {r : ReadResult} (h : Inv w)
    (hw : readQuery json notify fuel w fd r now = some w') : Inv w' := by
  unfold SignalingWorker.readQuery at hw
  split at hw
  · cases hw
    exact h
  · split at hw
    · rename_i p _
      split at hw
      · cases hw
      · rename_i c hp
        have hframing := h.framing p c hp
        split at hw
        · split at hw
          · have hset : Inv (w.setConn p { c with lastInteraction := now }) :=
              h.setConn hp rfl rfl hframing fun m hm => hm
            exact hset.closeConn hw
          · rename_i q hq
            have hbefore : LoopInv p q
                (w.setConn p { c with toFraming := q, lastInteraction := now }) := by
              refine ⟨?_, ?_, _, Function.update_self .., rfl⟩
              · cases r with
                | data chunk =>
                  cases hq
                  exact h.setConn hp rfl rfl hframing fun m hm => hm.append
                | wouldBlock =>
                  cases hq
                  exact h.setConn hp rfl rfl hframing fun m hm => hm
                | failed => cases hq
              · cases r <;> cases hq <;> exact hframing
            simp only at hw
            split at hw
            · rename_i ret q₁ w₁ hr
              split at hw
              · cases hw
              · rename_i c₁ hp₁
                obtain ⟨hinv, hframing₁, d, hd, hbuf⟩ := hbefore.loop ⟨fuel, hr⟩
                rw [hp₁] at hd
                cases hd
                have hset : Inv (w₁.setConn p { c₁ with toFraming := q₁ }) := by
                  refine hinv.setConn hp₁ rfl rfl hframing₁ fun m hm => ?_
                  have hheader : q₁.header = c₁.header := by
                    rw [Framing.header, Framing.header, hbuf]
                  exact ⟨hm.1, hbuf ▸ hm.2.1, hheader.trans hm.2.2⟩
                split at hw
                · cases hw
                  exact hset
                · exact hset.closeConn hw
            · cases hw
        · cases hw
    · cases hw

lemma Inv.writeReply {fd : Nat} {results : List Int} (h : Inv w)
    (hw : w.writeReply fd results now = some w') : Inv w' := by
  unfold SignalingWorker.writeReply at hw
  split at hw
  · cases hw
    exact h
  · split at hw
    · split at hw
      · cases hw
      · rename_i c hp
        have hset : ∀ replyList curRespPos last writing,
            Inv (w.setConn _ { c with
              replyList := replyList
              curRespPos := curRespPos
              lastInteraction := last
              writing := writing }) :=
          fun _ _ _ _ => h.setConn hp rfl rfl (h.framing _ c hp) fun m hm => hm
        split at hw
        · cases hw
        · exact (hset _ _ _ _).closeConn hw
        · cases hw
          exact hset _ _ _ _
    · cases hw
      exact h

lemma Inv.processTimeout (h : Inv w)
    (hw : w.processTimeout connectionTimeout p now = some w') : Inv w' := by
  unfold SignalingWorker.processTimeout at hw
  split at hw
  · cases hw
  · split at hw
    · exact h.closeConn hw
    · cases hw
      exact h

lemma Inv.rtcProcess {i : Nat} {offer : Bytes} (h : Inv w)
    (hw : w.rtcProcess i ret offer = some w') : Inv w' := by
  unfold SignalingWorker.rtcProcess at hw
  split at hw
  · cases hw
  · rename_i m hm
    have hsub := List.eraseIdx_sublist w.rtcMsgs i
    simp only at hw
    split at hw
    · cases hw
      refine h.messages rfl rfl rfl rfl rfl rfl fun m' hm' p c hconn hp hfd => ?_
      rcases hm' with hm' | hm'
      · exact h.pending m' (Or.inl (hsub.mem hm')) p c hconn hp hfd
      · rcases List.mem_append.mp hm' with hm' | hm'
        · exact h.pending m' (Or.inr hm') p c hconn hp hfd
        · obtain rfl := List.mem_singleton.mp hm'
          exact h.pending m (Or.inl (List.mem_of_getElem? hm)) p c hconn hp hfd
    · cases hw
      refine h.messages rfl rfl rfl rfl rfl rfl fun m' hm' => h.pending m' ?_
      exact hm'.imp_left hsub.mem

lemma Inv.rtcLost (h : Inv w) (i : Nat) : Inv { w with rtcMsgs := w.rtcMsgs.eraseIdx i } :=
  h.messages rfl rfl rfl rfl rfl rfl fun m hm =>
    h.pending m (hm.imp_left (List.eraseIdx_sublist w.rtcMsgs i).mem)

lemma Inv.answer {a : Answer} (h : Inv w) (hreceiver : a.receiver = a.sent.sender)
    (hheader : a.header = a.sent.header) : Inv { w with answers := w.answers ++ [a] } := by
  refine ⟨⟨h.filed, h.live, h.fds⟩, h.serial, h.closed_lt, h.unique, h.framing, h.pending, ?_⟩
  intro b hb
  rcases List.mem_append.mp hb with hb | hb
  · exact h.answers b hb
  · obtain rfl := List.mem_singleton.mp hb
    exact ⟨hreceiver, hheader⟩

lemma Inv.responseServerOffer (h : Inv w)
    (hm : ∀ p c, m.msg.conn = some p → w.heap p = some c → (c.fd : Int) = m.msg.fd → SentBy m c)
    (json : JsonLib) (beyond : Bytes) :
    ∃ w', w.responseServerOffer json m beyond = some w' ∧ Inv w' ∧
      (m.sender ∈ w.closed → w' = w) := by
  have hdrop : w.responseServerOffer json m beyond = some w →
      ∃ w', w.responseServerOffer json m beyond = some w' ∧ Inv w' ∧
        (m.sender ∈ w.closed → w' = w) := fun heq => ⟨w, heq, h, fun _ => rfl⟩
  cases hconn : m.msg.conn with
  | none =>
    apply hdrop
    simp [SignalingWorker.responseServerOffer, hconn]
  | some p =>
    by_cases hfd : m.msg.fd ≤ 0 ∨ w.conns.length ≤ m.msg.fd.toNat
    · apply hdrop
      simp [SignalingWorker.responseServerOffer, hconn, hfd]
    · by_cases hget : w.conns[m.msg.fd.toNat]? = some (some p)
      · have hcast : (m.msg.fd.toNat : Int) = m.msg.fd := Int.toNat_of_nonneg (by omega)
        obtain ⟨c, hp, hcfd⟩ := h.live _ p hget
        obtain ⟨hserial, hlen, hheader⟩ := hm p c hconn hp (hcfd ▸ hcast)
        have hinv := (h.addReply hp (buildReply ((c.querybuf ++ beyond).take xheadSize)
          (json.write (offerResult m.msg)))).answer
            (a := ⟨m, c.serial, (c.querybuf ++ beyond).take xheadSize⟩) hserial
            ((List.take_append_of_le_length hlen).trans hheader)
        refine ⟨_, ?_, hinv, fun hclosed => ?_⟩
        · simp only [SignalingWorker.responseServerOffer, hconn, if_neg hfd, ne_eq, hget,
            not_true_eq_false, if_false, hp]
        · exact absurd (hserial ▸ hclosed) (h.serial p c hp).2
      · apply hdrop
        simp only [SignalingWorker.responseServerOffer, hconn, if_neg hfd, ne_eq, hget,
          not_false_eq_true, if_true]

lemma Inv.processRtcMsg (h : Inv w) {qMsg : List Sent} (hq : w.qMsg = m :: qMsg)
    (json : JsonLib) (beyond : Bytes) :
    ∃ w', w.processRtcMsg json beyond = some w' ∧ Inv w' ∧
      (m.sender ∈ w.closed → w' = { w with qMsg }) := by
  have hmem : ∀ m', m' ∈ qMsg → m' ∈ w.qMsg := fun m' hm' => hq ▸ List.mem_cons_of_mem m hm'
  have hpop : Inv { w with qMsg } :=
    h.messages rfl rfl rfl rfl rfl rfl fun m' hm' => h.pending m' (hm'.imp_right (hmem m'))
  have hpending := h.pending m (Or.inr (hq ▸ List.mem_cons_self))
  by_cases hcmd : m.msg.cmdno = cmdnoPush ∨ m.msg.cmdno = cmdnoPull
  · obtain ⟨w', hw', hrest⟩ := hpop.responseServerOffer hpending json beyond
    refine ⟨w', ?_, hrest⟩
    simp only [SignalingWorker.processRtcMsg, hq, if_pos hcmd, hw']
  · refine ⟨{ w with qMsg }, ?_, hpop, fun _ => rfl⟩
    simp only [SignalingWorker.processRtcMsg, hq, if_neg hcmd]

lemma Inv.goesHome (h : Inv w) : GoesHome json w := by
  refine ⟨h.answers, fun m qMsg hq hclosed beyond => ?_⟩
  obtain ⟨w', hw', -, hdrop⟩ := h.processRtcMsg hq json beyond
  rw [hw', hdrop hclosed]

lemma Inv.step (h : Inv w) (hC : NoReuse w e)
    (hstep : WorkerStep json notify connectionTimeout w e w') : Inv w' := by
  obtain ⟨fuel, hw⟩ := hstep
  cases e with
  | newConn fd p now =>
    obtain ⟨⟨hp, hfd⟩, hw⟩ := Option.ite_none_right_eq_some.mp hw
    exact h.newConn (Option.isNone_iff_eq_none.mp hp) hfd hC hw
  | readQuery fd r now => exact h.readQuery hw
  | writeReply fd results now => exact h.writeReply hw
  | timeout p now => exact h.processTimeout hw
  | rtcProcess i ret offer => exact h.rtcProcess hw
  | rtcLost i =>
    cases hw
    exact h.rtcLost i
  | rtcMsg beyond =>
    cases hq : w.qMsg with
    | nil =>
      simp only [workerApply, SignalingWorker.processRtcMsg, hq, Option.some.injEq] at hw
      exact hw ▸ h
    | cons m qMsg =>
      obtain ⟨w₁, hw₁, hinv, -⟩ := h.processRtcMsg hq json beyond
      rw [workerApply, hw₁] at hw
      cases hw
      exact hinv

/-- Whatever the order of requests, closes, accepts and responses: while no connection is accepted
with the fd and the address that a pending response names, every offer goes to the connection that
asked for it, with the header of its request, and those of closed connections are dropped. -/
theorem goesHome_of_noReuse (json : JsonLib) (notify : Nat → Bool) (connectionTimeout : Nat)
    (es : List WorkerEvent)
    (h : Meets (WorkerStep json notify connectionTimeout) NoReuse initial es) :
    Along (WorkerStep json notify connectionTimeout) (GoesHome json) initial es :=
  (h.along (fun _ _ _ hinv hC hw => hinv.step hC hw) inv_initial).mono fun _ hinv => hinv.goesHome

/-- The values of a small JSON. -/
inductive SomeJson
  | null
  | number (n : Int)
  | string (s : Bytes)
  | pushRequest

def pushRequestText : Bytes :=
  "\x7b\"cmdno\":1,\"uid\":1,\"stream_name\":\"a\",\"audio\":1,\"video\":1\x7d".toUTF8.toList

/-- A member of an object with a text that needs no escapes. -/
def writeField : String × JsonField → Bytes
  | (key, .int n) => [34] ++ key.toUTF8.toList ++ [34, 58] ++ (toString n).toUTF8.toList
  | (key, .string s) => [34] ++ key.toUTF8.toList ++ [34, 58, 34] ++ s ++ [34]

/-- A library that knows the text of one request, a PUSH of the stream `a` by the user 1, and writes
the members of an object in the order of their keys. -/
def someJson : JsonLib where
  Value := SomeJson
  parse text := if text = pushRequestText then .ok (.pushRequest, []) else .ok (.null, [101])
  index v key :=
    match v with
    | .null => .ok .null
    | .pushRequest =>
      if key = "stream_name" then .ok (.string [97])
      else if key ∈ ["cmdno", "uid", "audio", "video"] then .ok (.number 1)
      else .ok .null
    | _ => .error .logicError
  asInt
    | .null => .ok 0
    | .number n => .ok n
    | _ => .error .logicError
  asUInt64
    | .null => .ok 0
    | .number n => .ok (.ofNat n.toNat)
    | _ => .error .logicError
  asString
    | .null => .ok []
    | .number n => .ok (toString n).toUTF8.toList
    | .string s => .ok s
    | .pushRequest => .error .logicError
  write fields :=
    [123] ++ [44].intercalate ((fields.mergeSort (·.1 ≤ ·.1)).map writeField) ++ [125]

/-- The header of `pushRequestText`. -/
def pushHeader : Bytes :=
  List.replicate 24 0 ++ [0x07, 0x25, 0x20, 0xfb] ++ [0, 0, 0, 0] ++
    [UInt8.ofNat pushRequestText.length, 0, 0, 0]

/-- A client connects on fd 5 and sends a PUSH. -/
def pushRun : List WorkerEvent :=
  [.newConn 5 1 0, .readQuery 5 (.data pushHeader) 0, .readQuery 5 (.data pushRequestText) 0]

/-- Where it stays, the offer comes back to it. -/
theorem push_goesHome :
    Along (WorkerStep someJson (fun _ => true) 1000) (GoesHome someJson) initial
      (pushRun ++ [.rtcProcess 0 0 [118], .rtcMsg []]) := by
  refine goesHome_of_noReuse someJson (fun _ => true) 1000 _ ?_
  refine fun _ _ => ⟨?_, fun _ _ => ⟨trivial, fun _ _ => ⟨trivial, fun _ _ => ⟨trivial, fun _ _ =>
    ⟨trivial, trivial⟩⟩⟩⟩⟩
  rintro m (hm | hm) <;> cases hm

/-- It hangs up, and the next connection gets its fd and its address. -/
def reuseRun : List WorkerEvent :=
  pushRun ++ [.readQuery 5 .failed 0, .newConn 5 1 0, .rtcProcess 0 0 [118], .rtcMsg []]

/-- The offer then goes to the next connection, which has sent nothing. -/
theorem offer_goes_to_next_connection :
    ¬ Along (WorkerStep someJson (fun _ => true) 1000) (GoesHome someJson) initial reuseRun := by
  intro h
  have hrun : (reuseRun.foldlM (workerApply someJson (fun _ => true) 1000 3) initial).map
      (fun w => w.answers.map fun a => (a.receiver, a.sent.sender)) = some [(1, 0)] := by
    decide +kernel
  obtain ⟨w, hw, hanswers⟩ := Option.map_eq_some_iff.mp hrun
  have hlast := (h.last (fun w e w' hstep => ⟨3, hstep⟩) hw).1
  obtain ⟨a, ha, hpair⟩ := List.mem_map.mp (hanswers ▸ List.mem_singleton_self (1, 0))
  have heq := (hlast a ha).1
  rw [(Prod.mk.inj hpair).1, (Prod.mk.inj hpair).2] at heq
  cases heq

end XrtcServer.Signaling
