import XrtcServer.Core.Loop
import XrtcServer.Signaling.Writing

/-!
# When a call of `_write_reply` comes to an end

The loop leaves when the list is empty or a write fails. A write that would block is only logged, so
that the loop writes again: a call gives way to the event loop exactly when no write blocks before
all is out.
-/

namespace XrtcServer.Signaling
open XrtcServer.Base XrtcServer.Core

namespace Outgoing

variable (behind : Nat → Nat → UInt8) (results : Nat → Int)

/-- One turn of the loop of `_write_reply`, whose write number `k` returns `results k`. -/
def writeReplyIter (x : Outgoing × Nat) : (Outgoing × Nat) ⊕ Outgoing :=
  match x.1.turn behind (results x.2) with
  | .inl t => .inl (t, x.2 + 1)
  | .inr t => .inr t

/-- A call that starts in `s` comes to the write number `k` in `t`. -/
def Comes (s t : Outgoing) (k : Nat) : Prop :=
  Visits (writeReplyIter behind results) (s, 0) (t, k)

/-- `write` takes at most the octets it is given, or fails. -/
def SocketTakes (s : Outgoing) : Prop :=
  ∀ t k q rest, Comes behind results s t k → t.replyList = q :: rest →
    results k = -1 ∨ 0 ≤ results k ∧ t.curRespPos + results k ≤ q.reply.size

/-- A call returns, and at a write that would block it goes back to the event loop with the rest
queued and the WRITE event active. -/
structure GivesWay (s : Outgoing) : Prop where
  returns : Leaves (writeReplyIter behind results) (s, 0)
  blocked : ∀ t k, Comes behind results s t k → t.replyList ≠ [] → results k = 0 →
    ∃ u, writeReplyIter behind results (t, k) = .inr u ∧ u.phase = .waiting ∧
      u.replyList = t.replyList ∧ u.curRespPos = t.curRespPos ∧ u.writeEvent = true

/-- What the first `k` writes return in all. -/
def taken : Nat → Int
  | 0 => 0
  | k + 1 => taken k + results k

/-- The octets that are queued and not out, where an empty reply counts as one. -/
def due (s : Outgoing) : Nat := (s.replyList.map fun q => max q.reply.size 1).sum - s.curRespPos

/-- No write would block before one fails or all is out. -/
def Unblocked (s : Outgoing) : Prop :=
  ∀ k, results k = 0 → ∃ j ≤ k, results j = -1 ∨ s.due ≤ taken results j

variable {behind results} {s t u : Outgoing} {q : Queued} {rest : List Queued} {k : Nat}

lemma due_of_nil (hl : s.replyList = []) : s.due = 0 := by
  rw [due, hl, List.map_nil, List.sum_nil, Nat.zero_sub]

lemma due_eq (hl : s.replyList = q :: rest) :
    s.due = max q.reply.size 1 + (rest.map fun q => max q.reply.size 1).sum - s.curRespPos := by
  rw [due, hl, List.map_cons, List.sum_cons]

lemma Sending.due_pos (h : s.Sending behind) (hl : s.replyList = q :: rest) : 0 < s.due := by
  have hpos := h.pos q rest hl
  rw [due_eq hl]
  omega

lemma Sending.due_written (h : s.Sending behind) (hl : s.replyList = q :: rest) {n : Nat}
    (hn : 0 < n) (hle : s.curRespPos + n ≤ q.reply.size) :
    (s.written behind q rest n).due + n = s.due := by
  have hpos := h.pos q rest hl
  rw [due_eq hl]
  unfold Outgoing.written
  dsimp only
  split_ifs with hfull
  · simp only [due]
    omega
  · simp only [due, hl, List.map_cons, List.sum_cons]
    omega

lemma iter_of_nil (hl : s.replyList = []) :
    writeReplyIter behind results (s, k) = .inr s.stopWriting := by
  simp only [writeReplyIter, turn, hl]

lemma iter_of_error (hl : s.replyList = q :: rest) (herr : results k = -1) :
    writeReplyIter behind results (s, k) = .inr s.closeConn := by
  simp only [writeReplyIter, turn, hl, if_pos herr]

/-- The loop goes on after a write that would block. -/
lemma iter_of_zero (hl : s.replyList = q :: rest) (hzero : results k = 0) :
    writeReplyIter behind results (s, k) = .inl (s, k + 1) := by
  have herr : ¬ results k = -1 := by omega
  simp only [writeReplyIter, turn, hl, if_neg herr, if_pos hzero]

lemma iter_of_written (hl : s.replyList = q :: rest) (hpos : 0 < results k) :
    writeReplyIter behind results (s, k) =
      .inl (s.written behind q rest (results k).toNat, k + 1) := by
  have herr : ¬ results k = -1 := by omega
  have hzero : ¬ results k = 0 := by omega
  simp only [writeReplyIter, turn, hl, if_neg herr, if_neg hzero]

/-- A write that does not fail brings `due` closer to nothing by what it returns. -/
lemma Sending.iter (h : s.Sending behind) (hphase : s.phase = .writing)
    (hl : s.replyList = q :: rest) (herr : results k ≠ -1)
    (hsock : results k = -1 ∨ 0 ≤ results k ∧ s.curRespPos + results k ≤ q.reply.size) :
    ∃ t, writeReplyIter behind results (s, k) = .inl (t, k + 1) ∧ t.Sending behind ∧
      t.phase = .writing ∧ (t.due : Int) + results k = s.due := by
  obtain ⟨hnonneg, hle⟩ := hsock.resolve_left herr
  rcases Int.lt_or_eq_of_le hnonneg with hpos | hzero
  · refine ⟨_, iter_of_written hl hpos, h.written hphase hl _, (written_phase _).trans hphase, ?_⟩
    have hdue := h.due_written hl (n := (results k).toNat) (by omega) (by omega)
    omega
  · exact ⟨s, iter_of_zero hl hzero.symm, h, hphase, by omega⟩

/-- What holds when the call comes to a write: the writes before it did not fail, and they returned
what is no longer due. -/
structure Underway (behind : Nat → Nat → UInt8) (results : Nat → Int) (s : Outgoing)
    (x : Outgoing × Nat) : Prop where
  sending : x.1.Sending behind
  phase : x.1.phase = .writing
  due : (x.1.due : Int) + taken results x.2 = s.due
  earlier : ∀ j < x.2, results j ≠ -1 ∧ taken results j < s.due

lemma underway (hs : s.Sending behind) (hphase : s.phase = .writing)
    (hsock : SocketTakes behind results s) {x : Outgoing × Nat}
    (h : Visits (writeReplyIter behind results) (s, 0) x) : Underway behind results s x := by
  induction h with
  | start => exact ⟨hs, hphase, Int.add_zero _, fun j hj => absurd hj (Nat.not_lt_zero j)⟩
  | @next x y hx hnext ih =>
    obtain ⟨t, k⟩ := x
    cases hl : t.replyList with
    | nil =>
      rw [iter_of_nil hl] at hnext
      cases hnext
    | cons q rest =>
      have herr : results k ≠ -1 := by
        intro herr
        rw [iter_of_error hl herr] at hnext
        cases hnext
      obtain ⟨u, hu, husending, huphase, hudue⟩ :=
        ih.sending.iter ih.phase hl herr (hsock t k q rest hx hl)
      rw [hu] at hnext
      cases hnext
      have hdue := ih.due
      have hmore := ih.sending.due_pos hl
      dsimp only at hdue hmore hudue
      refine ⟨husending, huphase, ?_, ?_⟩
      · dsimp only
        rw [taken]
        omega
      · intro j hj
        rcases Nat.lt_or_eq_of_le (Nat.le_of_lt_succ hj) with hlt | rfl
        · exact ih.earlier j hlt
        · exact ⟨herr, by omega⟩

/-- As long as no write fails and something is due, the call goes on. -/
lemma comes_of_due (hs : s.Sending behind) (hphase : s.phase = .writing)
    (hsock : SocketTakes behind results s)
    (hgo : ∀ j < k, results j ≠ -1 ∧ taken results j < s.due) :
    ∃ t, Comes behind results s t k := by
  induction k with
  | zero => exact ⟨s, .start⟩
  | succ k ih =>
    obtain ⟨t, ht⟩ := ih fun j hj => hgo j (Nat.lt_succ_of_lt hj)
    have hunder := underway hs hphase hsock ht
    obtain ⟨herr, hless⟩ := hgo k (Nat.lt_succ_self k)
    cases hl : t.replyList with
    | nil =>
      have hdue := hunder.due
      dsimp only at hdue
      rw [due_of_nil hl] at hdue
      omega
    | cons q rest =>
      obtain ⟨u, hu, -⟩ := hunder.sending.iter hunder.phase hl herr (hsock t k q rest ht hl)
      exact ⟨u, ht.next hu⟩

lemma GivesWay.unblocked (hs : s.Sending behind) (hphase : s.phase = .writing)
    (hsock : SocketTakes behind results s) (h : GivesWay behind results s) :
    Unblocked results s := by
  intro k hzero
  by_contra hnot
  have hgo : ∀ j ≤ k, results j ≠ -1 ∧ taken results j < s.due := by
    intro j hj
    refine ⟨fun herr => hnot ⟨j, hj, .inl herr⟩, ?_⟩
    by_contra hge
    exact hnot ⟨j, hj, .inr (Int.not_lt.mp hge)⟩
  obtain ⟨t, ht⟩ := comes_of_due hs hphase hsock fun j hj => hgo j (Nat.le_of_lt hj)
  have hdue := (underway hs hphase hsock ht).due
  have hless := (hgo k (Nat.le_refl k)).2
  cases hl : t.replyList with
  | nil =>
    dsimp only at hdue
    rw [due_of_nil hl] at hdue
    omega
  | cons q rest =>
    obtain ⟨u, hu, -⟩ := h.blocked t k ht (hl ▸ List.cons_ne_nil q rest) hzero
    rw [iter_of_zero hl hzero] at hu
    cases hu

lemma Unblocked.ne_zero (h : Unblocked results s) (hs : s.Sending behind)
    (hphase : s.phase = .writing) (hsock : SocketTakes behind results s)
    (ht : Comes behind results s t k) (hl : t.replyList = q :: rest) : results k ≠ 0 := by
  intro hzero
  have hunder := underway hs hphase hsock ht
  have hdue := hunder.due
  have hmore := hunder.sending.due_pos hl
  dsimp only at hdue hmore
  obtain ⟨j, hj, hor⟩ := h k hzero
  rcases Nat.lt_or_eq_of_le hj with hlt | rfl
  · obtain ⟨herr, hless⟩ := hunder.earlier j hlt
    omega
  · omega

lemma Unblocked.givesWay (h : Unblocked results s) (hs : s.Sending behind)
    (hphase : s.phase = .writing) (hsock : SocketTakes behind results s) :
    GivesWay behind results s := by
  refine ⟨leaves_of_measure (fun x => x.1.due) ?_, ?_⟩
  · rintro ⟨t, k⟩ y ht hnext
    have hunder := underway hs hphase hsock ht
    cases hl : t.replyList with
    | nil =>
      rw [iter_of_nil hl] at hnext
      cases hnext
    | cons q rest =>
      have hzero := h.ne_zero hs hphase hsock ht hl
      rcases hsock t k q rest ht hl with herr | ⟨hnonneg, hle⟩
      · rw [iter_of_error hl herr] at hnext
        cases hnext
      · rw [iter_of_written hl (by omega)] at hnext
        cases hnext
        have hsending : t.Sending behind := hunder.sending
        have hdue := hsending.due_written hl (n := (results k).toNat) (by omega) (by omega)
        dsimp only
        omega
  · intro t k ht hne hzero
    obtain ⟨q, rest, hl⟩ := List.exists_cons_of_ne_nil hne
    exact absurd hzero (h.ne_zero hs hphase hsock ht hl)

lemma sending_of_reachable (hs : Reachable (OutgoingStep behind) {} s)
    (hphase : s.phase = .writing) : s.Sending behind :=
  (hs.invariant inv_initial Inv.step).sending (hphase ▸ nofun)

/-- A call gives way exactly where no write blocks before one fails or all is out. -/
theorem givesWay_iff (hs : Reachable (OutgoingStep behind) {} s) (hphase : s.phase = .writing)
    (hsock : SocketTakes behind results s) :
    GivesWay behind results s ↔ Unblocked results s := by
  have hsending := sending_of_reachable hs hphase
  exact ⟨fun h => h.unblocked hsending hphase hsock, fun h => h.givesWay hsending hphase hsock⟩

/-- A call that has one reply of three octets to write. -/
def oneReply : Outgoing := { ({} : Outgoing).addReply ⟨[1, 2, 3], 3⟩ with phase := .writing }

lemma reachable_oneReply : Reachable (OutgoingStep behind) {} oneReply := by
  have hrun : [.addReply ⟨[1, 2, 3], 3⟩, .writeReply].foldlM (Outgoing.step behind) {} =
      some oneReply := rfl
  exact (leads_of_foldlM (fun _ _ _ h => h) hrun).reachable

/-- Two writes that take the reply. -/
def twoWrites : Nat → Int
  | 0 => 2
  | 1 => 1
  | _ => 0

theorem oneReply_givesWay : GivesWay (fun _ _ => 0) twoWrites oneReply := by
  have hvisits : ∀ x, Visits (writeReplyIter (fun _ _ => 0) twoWrites) (oneReply, 0) x →
      x = (oneReply, 0) ∨
        x.2 = 1 ∧ x.1.curRespPos = 2 ∧ x.1.replyList = oneReply.replyList ∨ x.1.replyList = [] := by
    intro x hx
    induction hx with
    | start => exact .inl rfl
    | @next y z _ hnext ih =>
      obtain ⟨t, k⟩ := y
      rcases ih with heq | ⟨rfl, hpos, hl⟩ | hl
      · cases heq
        cases hnext
        exact .inr (.inl ⟨rfl, rfl, rfl⟩)
      · rw [iter_of_written hl (by decide)] at hnext
        cases hnext
        dsimp only at hpos
        refine .inr (.inr ?_)
        unfold Outgoing.written
        dsimp only
        rw [hpos, if_pos (by decide)]
      · rw [iter_of_nil hl] at hnext
        cases hnext
  refine (givesWay_iff reachable_oneReply rfl ?_).mpr ?_
  · intro t k q rest ht hl
    rcases hvisits _ ht with heq | ⟨hk, hpos, hlist⟩ | hnil
    · cases heq
      cases hl
      exact .inr (by decide)
    · dsimp only at hk hpos hlist
      subst hk
      rw [hlist] at hl
      cases hl
      rw [hpos]
      exact .inr (by decide)
    · dsimp only at hnil
      rw [hnil] at hl
      cases hl
  · intro k hk
    have htwo : 2 ≤ k := by
      by_contra hlt
      have hcases : k = 0 ∨ k = 1 := by omega
      rcases hcases with rfl | rfl <;> cases hk
    exact ⟨2, htwo, .inr (by decide)⟩

/-- Where the peer never reads, the call never returns. -/
theorem blockedSocket_never_leaves :
    Reachable (OutgoingStep fun _ _ => 0) {} oneReply ∧
      SocketTakes (fun _ _ => 0) (fun _ => 0) oneReply ∧
      ¬ Leaves (writeReplyIter (fun _ _ => 0) fun _ => 0) (oneReply, 0) := by
  have hagain : ∀ x y : Outgoing × Nat, x.1 = oneReply →
      writeReplyIter (fun _ _ => 0) (fun _ => 0) x = .inl y → y.1 = oneReply := by
    rintro ⟨t, k⟩ y rfl hy
    cases hy
    rfl
  refine ⟨reachable_oneReply, ?_, ?_⟩
  · intro t k q rest ht hl
    have heq : t = oneReply := Visits.invariant (I := fun x => x.1 = oneReply) hagain rfl ht
    rw [heq] at hl ⊢
    cases hl
    have hfits : (0 : Int) + 0 ≤ 3 := by decide
    exact .inr ⟨Int.le_refl 0, hfits⟩
  · rintro ⟨r, hr⟩
    refine hr.invariant (I := fun x => x.1 = oneReply) (Q := fun _ => False) hagain ?_ rfl
    rintro ⟨t, k⟩ u rfl hu
    cases hu

end Outgoing

end XrtcServer.Signaling
