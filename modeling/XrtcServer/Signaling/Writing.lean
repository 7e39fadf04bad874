import XrtcServer.Core.Loop
import XrtcServer.Core.Run
import XrtcServer.Signaling.ConnTable

/-!
# Writing the replies of a connection

`_write_reply` takes the replies of a connection one after the other and remembers in `cur_resp_pos`
how much of the first one is out. The file follows the octets that the socket accepts and the blocks
that are freed, one `sock_write_data` at a time.
-/

namespace XrtcServer.Signaling
open XrtcServer.Base XrtcServer.Core

/-- A reply in the list of a connection, and the number of the block that its slice lies in. -/
structure Queued where
  block : Nat
  reply : Reply
  deriving DecidableEq, Repr

/-- The octets that a slice shows, where `behind` is what memory holds behind each block. -/
def Queued.octets (behind : Nat → Nat → UInt8) (q : Queued) : Bytes :=
  q.reply.buf.take q.reply.size ++
    (List.range (q.reply.size - q.reply.buf.length)).map (behind q.block)

/-- Where the worker is with a connection: in its event loop, in `_write_reply`, or done with it. -/
inductive WriterPhase
  | waiting
  | writing
  | deleted
  deriving DecidableEq, Repr

/-- What `_write_reply` reads and writes of a connection. The last three fields are ghosts: the
replies that were added so far, the octets that the socket has taken and the blocks that were freed,
each in order. -/
structure Outgoing where
  phase : WriterPhase := .waiting
  replyList : List Queued := []
  curRespPos : Nat := 0
  /-- Whether the `io_watcher` waits for WRITE. -/
  writeEvent : Bool := false
  added : List Queued := []
  accepted : Bytes := []
  freed : List Nat := []
  deriving DecidableEq, Repr

namespace Outgoing

/-- `_add_reply`, with the next block. -/
def addReply (s : Outgoing) (reply : Reply) : Outgoing :=
  let q : Queued := ⟨s.added.length, reply⟩
  { s with replyList := s.replyList ++ [q], writeEvent := true, added := s.added ++ [q] }

/-- `_close_conn`, which ends in the destructor of the connection. -/
def closeConn (s : Outgoing) : Outgoing :=
  { s with
    phase := .deleted
    replyList := []
    freed := s.freed ++ s.replyList.map Queued.block }

/-- What `_write_reply` does behind its loop. -/
def stopWriting (s : Outgoing) : Outgoing := { s with phase := .waiting, writeEvent := false }

variable (behind : Nat → Nat → UInt8)

/-- The socket took `n` octets of the first reply. -/
def written (s : Outgoing) (q : Queued) (rest : List Queued) (n : Nat) : Outgoing :=
  let s := { s with accepted := s.accepted ++ ((q.octets behind).drop s.curRespPos).take n }
  if q.reply.size ≤ n + s.curRespPos then
    { s with replyList := rest, curRespPos := 0, freed := s.freed ++ [q.block] }
  else { s with curRespPos := s.curRespPos + n }

/-- One turn of the loop of `_write_reply`, in which `sock_write_data` returns `n` if it is called.
The call returns on the right. -/
def turn (s : Outgoing) (n : Int) : Outgoing ⊕ Outgoing :=
  match s.replyList with
  | [] => .inr s.stopWriting
  | q :: rest =>
    if n = -1 then .inr s.closeConn
    else if n = 0 then .inl s
    else .inl (s.written behind q rest n.toNat)

end Outgoing

/-- What happens to the replies of a connection: one is added, `_write_reply` is called, its loop
makes a turn, or the connection is closed from elsewhere. -/
inductive OutgoingEvent
  | addReply (reply : Reply)
  | writeReply
  | turn (n : Int)
  | closed
  deriving DecidableEq, Repr

/-- One event; the worker has one thread, so nothing comes between the turns of a call. -/
def Outgoing.step (behind : Nat → Nat → UInt8) (s : Outgoing) : OutgoingEvent → Option Outgoing
  | .addReply reply => if s.phase = .waiting then some (s.addReply reply) else none
  | .writeReply => if s.phase = .waiting then some { s with phase := .writing } else none
  | .turn n => if s.phase = .writing then some ((s.turn behind n).elim id id) else none
  | .closed => if s.phase = .waiting then some s.closeConn else none

/-- The transition relation of the replies of a connection. -/
def OutgoingStep (behind : Nat → Nat → UInt8) (s : Outgoing) (e : OutgoingEvent) (t : Outgoing) :
    Prop :=
  s.step behind e = some t

variable {behind : Nat → Nat → UInt8} {s t : Outgoing} {q : Queued} {rest : List Queued}

@[simp] lemma Queued.length_octets (q : Queued) : (q.octets behind).length = q.reply.size := by
  rw [octets, List.length_append, List.length_take, List.length_map, List.length_range]
  omega

namespace Outgoing

/-! ## What is out, what is freed -/

/-- The sizes of the first `n` replies that were added. -/
def sizeOfFirst (s : Outgoing) (n : Nat) : Nat := ((s.added.take n).map (·.reply.size)).sum

/-- The octets that the socket has taken are a prefix of the replies in the order in which they were
added. Each block is freed at most once, and either freed or still queued; before the connection
goes, those that are freed are out as a whole and those that are queued are not. A connection that
goes has freed all. An empty list stands for no position and, in the event loop, for no event. -/
structure Orderly (behind : Nat → Nat → UInt8) (s : Outgoing) : Prop where
  inOrder : s.accepted <+: s.added.flatMap (Queued.octets behind)
  numbered : s.added.map Queued.block = List.range s.added.length
  once : s.freed.Nodup
  freed_lt : ∀ i ∈ s.freed, i < s.added.length
  freed_iff : ∀ i < s.added.length, i ∈ s.freed ↔ i ∉ s.replyList.map Queued.block
  queued : s.replyList.Sublist s.added
  whole : s.phase ≠ .deleted → ∀ i ∈ s.freed, s.sizeOfFirst (i + 1) ≤ s.accepted.length
  part : ∀ q ∈ s.replyList,
    q.reply.size = 0 ∨ s.accepted.length < s.sizeOfFirst (q.block + 1)
  deleted : s.phase = .deleted → s.replyList = []
  empty : s.phase ≠ .deleted → s.replyList = [] →
    s.curRespPos = 0 ∧ (s.phase = .waiting → s.writeEvent = false)

/-- The invariant of a connection that is alive: what is out and what is not yet make up the
replies, and what is freed and what is queued make up the blocks. -/
structure Sending (behind : Nat → Nat → UInt8) (s : Outgoing) : Prop where
  numbered : s.added.map Queued.block = List.range s.added.length
  sent : s.accepted ++ (s.replyList.flatMap (Queued.octets behind)).drop s.curRespPos =
    s.added.flatMap (Queued.octets behind)
  freed : s.freed = List.range s.freed.length
  freed_le : s.freed.length ≤ s.added.length
  queued : s.replyList = s.added.drop s.freed.length
  pos : ∀ q rest, s.replyList = q :: rest → s.curRespPos < max q.reply.size 1
  pos_nil : s.replyList = [] → s.curRespPos = 0
  event : s.phase = .waiting → s.replyList = [] → s.writeEvent = false

/-- The invariant of a connection that is gone. -/
structure Gone (behind : Nat → Nat → UInt8) (s : Outgoing) : Prop where
  numbered : s.added.map Queued.block = List.range s.added.length
  sent : s.accepted <+: s.added.flatMap (Queued.octets behind)
  freed : s.freed = List.range s.added.length
  replyList : s.replyList = []

def Inv (behind : Nat → Nat → UInt8) (s : Outgoing) : Prop :=
  if s.phase = .deleted then s.Gone behind else s.Sending behind

lemma inv_initial : Inv behind {} := by
  refine ⟨rfl, rfl, rfl, Nat.le_refl 0, rfl, ?_, fun _ => rfl, fun _ _ => rfl⟩
  intro q rest h
  cases h

lemma length_flatMap_octets (l : List Queued) :
    (l.flatMap (Queued.octets behind)).length = (l.map (·.reply.size)).sum := by
  simp only [List.length_flatMap, Queued.length_octets]

lemma Sending.pos_le (h : s.Sending behind) :
    s.curRespPos ≤ (s.replyList.map (·.reply.size)).sum := by
  cases hl : s.replyList with
  | nil => simp [h.pos_nil hl]
  | cons q rest =>
    have hlt := h.pos q rest hl
    simp only [List.map_cons, List.sum_cons]
    omega

/-- The reply number `j` in the list. -/
lemma Sending.getElem?_added (h : s.Sending behind) {j : Nat} (hj : s.replyList[j]? = some q) :
    q.block = s.freed.length + j ∧ s.added[s.freed.length + j]? = some q := by
  rw [h.queued, List.getElem?_drop] at hj
  have hlt := (List.getElem?_eq_some_iff.mp hj).1
  have hblock : (s.added.map Queued.block)[s.freed.length + j]? = some q.block := by
    rw [List.getElem?_map, hj, Option.map_some]
  rw [h.numbered, List.getElem?_range hlt] at hblock
  exact ⟨(Option.some.inj hblock).symm, hj⟩

lemma Sending.addReply (h : s.Sending behind) (reply : Reply) :
    (s.addReply reply).Sending behind where
  numbered := by
    simp only [Outgoing.addReply, List.map_append, h.numbered, List.map_cons, List.map_nil,
      List.length_append, List.length_cons, List.length_nil, List.range_succ]
  sent := by
    have hpos : s.curRespPos ≤ (s.replyList.flatMap (Queued.octets behind)).length :=
      length_flatMap_octets s.replyList ▸ h.pos_le
    simp only [Outgoing.addReply, List.flatMap_append, List.drop_append_of_le_length hpos]
    rw [← List.append_assoc, h.sent]
  freed := h.freed
  freed_le := by
    have hle := h.freed_le
    simp only [Outgoing.addReply, List.length_append]
    omega
  queued := by
    simp only [Outgoing.addReply]
    rw [List.drop_append_of_le_length h.freed_le, ← h.queued]
  pos q rest hl := by
    cases hold : s.replyList with
    | nil =>
      simp only [Outgoing.addReply, h.pos_nil hold]
      omega
    | cons q' rest' =>
      simp only [Outgoing.addReply, hold, List.cons_append, List.cons.injEq] at hl
      exact hl.1 ▸ h.pos q' rest' hold
  pos_nil hl := by simp [Outgoing.addReply] at hl
  event _ hl := by simp [Outgoing.addReply] at hl

/-- What is freed and what is queued make up the blocks, in order. -/
lemma Sending.blocks (h : s.Sending behind) :
    s.freed ++ s.replyList.map Queued.block = List.range s.added.length := by
  rw [h.queued, List.map_drop, h.numbered]
  conv_lhs => enter [1]; rw [h.freed]
  have htake := (List.take_range (i := s.freed.length) (n := s.added.length)).symm
  rw [Nat.min_eq_left h.freed_le] at htake
  rw [htake, List.take_append_drop]

lemma Sending.closeConn (h : s.Sending behind) : s.closeConn.Gone behind where
  numbered := h.numbered
  sent := ⟨_, h.sent⟩
  freed := h.blocks
  replyList := rfl

/-- The first reply that is queued is the one after those that are freed. -/
lemma Sending.block_eq (h : s.Sending behind) (hl : s.replyList = q :: rest) :
    q.block = s.freed.length ∧ s.freed.length < s.added.length ∧
      rest = s.added.drop (s.freed.length + 1) := by
  have hfirst : s.replyList[0]? = some q := by rw [hl, List.getElem?_cons_zero]
  obtain ⟨hblock, hadded⟩ := h.getElem?_added hfirst
  rw [Nat.add_zero] at hblock hadded
  have hlt := (List.getElem?_eq_some_iff.mp hadded).1
  have hdrop : q :: rest = s.added.drop s.freed.length := hl ▸ h.queued
  rw [List.drop_eq_getElem_cons hlt, List.cons.injEq] at hdrop
  exact ⟨hblock, hlt, hdrop.2⟩

lemma Sending.written (h : s.Sending behind) (hphase : s.phase = .writing)
    (hl : s.replyList = q :: rest) (n : Nat) : (s.written behind q rest n).Sending behind := by
  have hlt := h.pos q rest hl
  have hsent := h.sent
  obtain ⟨hblock, hmore, hrest⟩ := h.block_eq hl
  rw [hl, List.flatMap_cons] at hsent
  unfold Outgoing.written
  dsimp only
  split_ifs with hfull
  · -- the last octet of the first reply is out
    have htake : ((q.octets behind).drop s.curRespPos).take n =
        (q.octets behind).drop s.curRespPos := by
      apply List.take_of_length_le
      rw [List.length_drop, Queued.length_octets]
      omega
    refine ⟨h.numbered, ?sent, ?freed, ?le, ?queued, ?pos, fun _ => rfl, ?event⟩
    case sent =>
      rw [htake, List.drop_zero, List.append_assoc, ← hsent]
      by_cases hle : s.curRespPos ≤ (q.octets behind).length
      · rw [List.drop_append_of_le_length hle]
      · rw [Queued.length_octets] at hle
        omega
    case freed =>
      rw [List.length_append, List.length_singleton, List.range_succ, hblock, ← h.freed]
    case le =>
      rw [List.length_append, List.length_singleton]
      exact hmore
    case queued =>
      rw [List.length_append, List.length_singleton]
      exact hrest
    case pos =>
      intro q' rest' _
      dsimp only
      omega
    case event =>
      intro hwaiting
      rw [hphase] at hwaiting
      cases hwaiting
  · refine ⟨h.numbered, ?sent', h.freed, h.freed_le, h.queued, ?pos', ?nil', ?event'⟩
    case sent' =>
      dsimp only
      rw [← hsent, hl, List.flatMap_cons, List.append_assoc]
      have hle : s.curRespPos + n ≤ (q.octets behind).length := by
        rw [Queued.length_octets]
        omega
      rw [List.drop_append_of_le_length hle, List.drop_append_of_le_length (by omega),
        ← List.drop_drop, ← List.append_assoc, ← List.append_assoc, ← List.append_assoc,
        List.append_assoc s.accepted, List.take_append_drop]
    case pos' =>
      intro q' rest' hl'
      obtain ⟨rfl, rfl⟩ := List.cons.inj (hl.symm.trans hl')
      dsimp only
      omega
    case nil' =>
      intro hnil
      rw [hl] at hnil
      cases hnil
    case event' =>
      intro hwaiting
      rw [hphase] at hwaiting
      cases hwaiting

lemma Sending.stopWriting (h : s.Sending behind) : s.stopWriting.Sending behind :=
  ⟨h.numbered, h.sent, h.freed, h.freed_le, h.queued, h.pos, h.pos_nil, fun _ _ => rfl⟩

lemma inv_of_sending (hphase : s.phase ≠ .deleted) (h : s.Sending behind) : Inv behind s := by
  rw [Inv, if_neg hphase]
  exact h

lemma Inv.sending (h : Inv behind s) (hphase : s.phase ≠ .deleted) : s.Sending behind := by
  rwa [Inv, if_neg hphase] at h

lemma written_phase (n : Nat) : (s.written behind q rest n).phase = s.phase := by
  unfold Outgoing.written
  dsimp only
  split_ifs <;> rfl

lemma Sending.turn (h : s.Sending behind) (hphase : s.phase = .writing) (n : Int) :
    Inv behind ((s.turn behind n).elim id id) := by
  have halive : s.phase ≠ .deleted := by
    rw [hphase]
    exact nofun
  unfold Outgoing.turn
  split
  next hl => exact inv_of_sending nofun h.stopWriting
  next q rest hl =>
    split_ifs with herr hzero
    · exact h.closeConn
    · exact inv_of_sending halive h
    · have hkeep : (s.written behind q rest n.toNat).phase ≠ .deleted := by
        rw [written_phase]
        exact halive
      exact inv_of_sending hkeep (h.written hphase hl n.toNat)

lemma Inv.step (s : Outgoing) (e : OutgoingEvent) (t : Outgoing) (h : Inv behind s)
    (hstep : OutgoingStep behind s e t) : Inv behind t := by
  have hwaiting : s.phase = .waiting → s.Sending behind := fun hphase =>
    h.sending (hphase ▸ nofun)
  have hwriting : s.phase = .writing → s.Sending behind := fun hphase =>
    h.sending (hphase ▸ nofun)
  cases e with
  | addReply reply =>
    obtain ⟨hphase, ht⟩ := Option.ite_none_right_eq_some.mp hstep
    cases ht
    exact inv_of_sending (hphase ▸ nofun) ((hwaiting hphase).addReply reply)
  | writeReply =>
    obtain ⟨hphase, ht⟩ := Option.ite_none_right_eq_some.mp hstep
    cases ht
    have hs := hwaiting hphase
    exact inv_of_sending nofun ⟨hs.numbered, hs.sent, hs.freed, hs.freed_le, hs.queued, hs.pos,
      hs.pos_nil, nofun⟩
  | turn n =>
    obtain ⟨hphase, ht⟩ := Option.ite_none_right_eq_some.mp hstep
    cases ht
    exact (hwriting hphase).turn hphase n
  | closed =>
    obtain ⟨hphase, ht⟩ := Option.ite_none_right_eq_some.mp hstep
    cases ht
    exact (hwaiting hphase).closeConn

/-! ## The invariant says what is out -/

lemma sizeOfFirst_succ {n : Nat} (h : s.added[n]? = some q) :
    s.sizeOfFirst (n + 1) = s.sizeOfFirst n + q.reply.size := by
  simp only [sizeOfFirst, List.take_add_one, h, Option.toList_some, List.map_append, List.map_cons,
    List.map_nil, List.sum_append, List.sum_cons, List.sum_nil]
  omega

lemma sizeOfFirst_mono {n m : Nat} (h : n ≤ m) : s.sizeOfFirst n ≤ s.sizeOfFirst m := by
  obtain ⟨d, rfl⟩ := Nat.le.dest h
  simp only [sizeOfFirst, List.take_add, List.map_append, List.sum_append]
  omega

/-- The octets that are out are those of the replies that are freed and those of the first one that
is queued up to `cur_resp_pos`. -/
lemma Sending.length_accepted (h : s.Sending behind) :
    s.accepted.length = s.sizeOfFirst s.freed.length + s.curRespPos := by
  have hlen := congrArg List.length h.sent
  rw [List.length_append, List.length_drop, length_flatMap_octets, length_flatMap_octets] at hlen
  have hall : (s.added.map (·.reply.size)).sum =
      s.sizeOfFirst s.freed.length + (s.replyList.map (·.reply.size)).sum := by
    rw [sizeOfFirst, h.queued, ← List.sum_append, ← List.map_append, List.take_append_drop]
  have hpos := h.pos_le
  omega

lemma Sending.part (h : s.Sending behind) (hq : q ∈ s.replyList) :
    q.reply.size = 0 ∨ s.accepted.length < s.sizeOfFirst (q.block + 1) := by
  obtain ⟨j, hj⟩ := List.getElem?_of_mem hq
  obtain ⟨hblock, hadded⟩ := h.getElem?_added hj
  have hsize := sizeOfFirst_succ hadded
  rw [hblock, h.length_accepted, hsize]
  cases hl : s.replyList with
  | nil =>
    rw [hl] at hq
    cases hq
  | cons first rest =>
    have hpos := h.pos first rest hl
    cases j with
    | zero =>
      rw [hl, List.getElem?_cons_zero, Option.some.injEq] at hj
      subst hj
      rw [Nat.add_zero]
      omega
    | succ j =>
      have hfirst : s.replyList[0]? = some first := by rw [hl, List.getElem?_cons_zero]
      have hsucc := sizeOfFirst_succ (h.getElem?_added hfirst).2
      have hmono :
          s.sizeOfFirst (s.freed.length + 0 + 1) ≤ s.sizeOfFirst (s.freed.length + (j + 1)) :=
        sizeOfFirst_mono (by omega)
      rw [hsucc, Nat.add_zero] at hmono
      omega

lemma Sending.orderly (h : s.Sending behind) (hphase : s.phase ≠ .deleted) : Orderly behind s := by
  have hnodup : (s.freed ++ s.replyList.map Queued.block).Nodup := h.blocks ▸ List.nodup_range
  have hmem : ∀ i, i < s.added.length ↔ i ∈ s.freed ∨ i ∈ s.replyList.map Queued.block := by
    intro i
    rw [← List.mem_append, h.blocks, List.mem_range]
  refine ⟨⟨_, h.sent⟩, h.numbered, (List.nodup_append.mp hnodup).1, ?lt, ?iff, ?queued, ?whole,
    fun q hq => h.part hq, fun hdeleted => absurd hdeleted hphase,
    fun _ hnil => ⟨h.pos_nil hnil, fun hwaiting => h.event hwaiting hnil⟩⟩
  case lt => exact fun i hi => (hmem i).mpr (.inl hi)
  case iff =>
    intro i hi
    constructor
    · intro hfreed hqueued
      exact (List.nodup_append.mp hnodup).2.2 i hfreed i hqueued rfl
    · exact fun hqueued => ((hmem i).mp hi).resolve_right hqueued
  case queued =>
    rw [h.queued]
    exact List.drop_sublist _ _
  case whole =>
    intro _ i hi
    rw [h.freed, List.mem_range] at hi
    rw [h.length_accepted]
    have hmono : s.sizeOfFirst (i + 1) ≤ s.sizeOfFirst s.freed.length := sizeOfFirst_mono hi
    omega

lemma Gone.orderly (h : s.Gone behind) (hphase : s.phase = .deleted) : Orderly behind s := by
  refine ⟨h.sent, h.numbered, h.freed ▸ List.nodup_range, ?lt, ?iff, ?queued,
    fun halive => absurd hphase halive, ?part, fun _ => h.replyList,
    fun halive => absurd hphase halive⟩
  case lt =>
    intro i hi
    exact List.mem_range.mp (h.freed ▸ hi)
  case iff =>
    intro i hi
    rw [h.replyList, h.freed]
    exact ⟨fun _ => List.not_mem_nil, fun _ => List.mem_range.mpr hi⟩
  case queued =>
    rw [h.replyList]
    exact List.nil_sublist _
  case part =>
    intro q hq
    rw [h.replyList] at hq
    cases hq

lemma Inv.orderly (h : Inv behind s) : Orderly behind s := by
  by_cases hphase : s.phase = .deleted
  · rw [Inv, if_pos hphase] at h
    exact h.orderly hphase
  · exact (h.sending hphase).orderly hphase

/-- In every run the replies go out in order, nothing of them is skipped or sent again, and each
block is freed once. -/
theorem along_orderly (behind : Nat → Nat → UInt8) (es : List OutgoingEvent) :
    Along (OutgoingStep behind) (Orderly behind) {} es :=
  (along_of_invariant Inv.step inv_initial es).mono fun _ h => h.orderly

/-! ## The worker writes as the machine does -/

/-- The connection `c` holds the replies of `s`. -/
structure Shows (s : Outgoing) (c : TCPConnection) : Prop where
  replyList : s.replyList.map Queued.reply = c.replyList
  curRespPos : s.curRespPos = c.curRespPos
  writing : s.writeEvent = c.writing

lemma step_writeReply (hphase : s.phase = .waiting) :
    s.step behind .writeReply = some { s with phase := .writing } := if_pos hphase

lemma step_turn (hphase : s.phase = .writing) (n : Int) :
    s.step behind (.turn n) = some ((s.turn behind n).elim id id) := if_pos hphase

/-- What `_add_reply` of the worker does to a connection is a step of the machine. -/
theorem addReply_refines {w : SignalingWorker} {p : Addr} {c : TCPConnection}
    (hphase : s.phase = .waiting) (hc : s.Shows c) (reply : Reply) :
    ∃ t c', s.step behind (.addReply reply) = some t ∧ t.phase = .waiting ∧
      (w.addReply p c reply).heap p = some c' ∧ t.Shows c' := by
  refine ⟨s.addReply reply, _, if_pos hphase, hphase, Function.update_self _ _ _, ?_,
    hc.curRespPos, rfl⟩
  rw [← hc.replyList]
  simp only [Outgoing.addReply, List.map_append, List.map_cons, List.map_nil]

/-- The turns that a call takes where the writes return `results`. -/
def turns (failed : Bool) (results : List Int) : List OutgoingEvent :=
  results.map .turn ++ if failed then [] else [.turn 0]

lemma step_turns_cons {failed : Bool} {n : Int} {ns : List Int} {u : Outgoing}
    (hphase : s.phase = .writing) (hn : s.turn behind n = .inl u) :
    (turns failed (n :: ns)).foldlM (Outgoing.step behind) s =
      (turns failed ns).foldlM (Outgoing.step behind) u := by
  rw [turns, List.map_cons, List.cons_append, List.foldlM_cons, step_turn hphase, hn]
  rfl

lemma step_writeReplies (behind : Nat → Nat → UInt8) {pos pos' : Nat}
    {replies replies' : List Reply} {ns : List Int} {failed : Bool} (hphase : s.phase = .writing)
    (hlist : s.replyList.map Queued.reply = replies) (hpos : s.curRespPos = pos)
    (h : SignalingWorker.writeReplies replies pos ns = some (failed, replies', pos')) :
    ∃ t, (turns failed ns).foldlM (Outgoing.step behind) s = some t ∧
      if failed then t.phase = .deleted
      else t.phase = .waiting ∧ t.replyList.map Queued.reply = replies' ∧ t.curRespPos = pos' ∧
        t.writeEvent = false := by
  induction ns generalizing s replies pos with
  | nil =>
    cases hl : s.replyList with
    | nil =>
      rw [hl, List.map_nil] at hlist
      subst hlist
      cases h
      refine ⟨s.stopWriting, ?_, rfl, ?_, hpos, rfl⟩
      · rw [turns, List.map_nil, List.nil_append, if_neg Bool.false_ne_true, List.foldlM_cons,
          step_turn hphase, Outgoing.turn, hl]
        rfl
      · rw [Outgoing.stopWriting, hl, List.map_nil]
    | cons q rest =>
      rw [hl, List.map_cons] at hlist
      subst hlist
      cases h
  | cons n ns ih =>
    cases hl : s.replyList with
    | nil =>
      rw [hl, List.map_nil] at hlist
      subst hlist
      cases h
    | cons q rest =>
      rw [hl, List.map_cons] at hlist
      subst hlist
      rw [SignalingWorker.writeReplies] at h
      split_ifs at h with herr hns hzero hfull
      · cases h
        subst herr hns
        refine ⟨s.closeConn, ?_, rfl⟩
        rw [turns, List.map_cons, List.cons_append, List.foldlM_cons, step_turn hphase,
          Outgoing.turn, hl]
        rfl
      · have hturn : s.turn behind n = .inl s := by
          rw [Outgoing.turn, hl]
          simp only [if_neg herr, if_pos hzero]
        rw [step_turns_cons hphase hturn]
        exact ih hphase (by rw [hl, List.map_cons]) hpos h
      all_goals
        have hturn : s.turn behind n = .inl (s.written behind q rest n.toNat) := by
          rw [Outgoing.turn, hl]
          simp only [if_neg herr, if_neg hzero]
        rw [step_turns_cons hphase hturn]
      · refine ih ((written_phase _).trans hphase) ?_ ?_ h
        · rw [Outgoing.written, if_pos (hpos ▸ hfull)]
        · rw [Outgoing.written, if_pos (hpos ▸ hfull)]
      · refine ih ((written_phase _).trans hphase) ?_ ?_ h
        · rw [Outgoing.written, if_neg (hpos ▸ hfull), ← List.map_cons, ← hl]
        · rw [Outgoing.written, if_neg (hpos ▸ hfull), ← hpos]

/-- What `_write_reply` of the worker does to a connection is a run of the machine. -/
theorem writeReply_refines {w w' : SignalingWorker} {fd now : Nat} {p : Addr} {c : TCPConnection}
    {results : List Int} (hphase : s.phase = .waiting) (hfd : w.conns[fd]? = some (some p))
    (hp : w.heap p = some c) (hc : s.Shows c) (hw : w.writeReply fd results now = some w') :
    ∃ (es : List OutgoingEvent) (t : Outgoing), es.foldlM (Outgoing.step behind) s = some t ∧
      (t.phase = .deleted ∧ w'.heap p = none ∨
        t.phase = .waiting ∧ ∃ c', w'.heap p = some c' ∧ t.Shows c') := by
  unfold SignalingWorker.writeReply at hw
  split_ifs at hw with hskip
  · cases hw
    exact ⟨[], s, rfl, .inr ⟨hphase, c, hp, hc⟩⟩
  · simp only [hfd, hp] at hw
    cases hres : SignalingWorker.writeReplies c.replyList c.curRespPos results with
    | none =>
      rw [hres] at hw
      cases hw
    | some r =>
      obtain ⟨failed, replies, pos⟩ := r
      rw [hres] at hw
      obtain ⟨t, hrun, ht⟩ := step_writeReplies behind (s := { s with phase := .writing })
        rfl hc.replyList hc.curRespPos hres
      refine ⟨.writeReply :: turns failed results, t, ?_, ?_⟩
      · rw [List.foldlM_cons, step_writeReply hphase]
        exact hrun
      · cases failed with
        | true =>
          obtain ⟨c', -, -, rfl⟩ := closeConn_eq_some hw
          exact .inl ⟨ht, Function.update_self _ _ _⟩
        | false =>
          obtain ⟨hwaiting, hlist, hpos, hevent⟩ := ht
          cases hw
          exact .inr ⟨hwaiting, _, Function.update_self _ _ _, hlist, hpos, hevent⟩

end Outgoing

end XrtcServer.Signaling
