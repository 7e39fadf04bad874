import XrtcServer.Core.Heap
import XrtcServer.Signaling.Requests

/-!
# The table of connections

`_conns` finds a connection by its fd. It grows to twice the fd of a new connection, an entry is
cleared where its connection is closed, and what reads it checks the index first. The file proves
that the table and the live connections agree in every run in which no connection is accepted that
the growth makes no room for.
-/

namespace XrtcServer.Signaling
open XrtcServer.Base XrtcServer.Core SignalingWorker

variable {json : JsonLib} {notify : Nat → Bool} {connectionTimeout : Nat}
  {w w' w'' : SignalingWorker} {p : Addr} {c c' : TCPConnection} {e : WorkerEvent}
  {header body : Bytes} {ret : Int} {now : Nat}

/-- Every entry of `_conns` is a live connection with this fd, and every live connection has the
entry of its fd. -/
structure Filed (w : SignalingWorker) : Prop where
  filed : ∀ p c, w.heap p = some c → w.conns[c.fd]? = some (some p)
  live : ∀ fd p, w.conns[fd]? = some (some p) → ∃ c, w.heap p = some c ∧ c.fd = fd
  fds : ∀ p c, w.heap p = some c → c.fd ∈ w.openFds

lemma filed_initial : Filed initial := by
  constructor <;> simp [initial]

lemma Filed.lt_length (h : Filed w) (hp : w.heap p = some c) : c.fd < w.conns.length :=
  (List.getElem?_eq_some_iff.mp (h.filed p c hp)).1

/-- Two live connections have different fds. -/
lemma Filed.fd_ne (h : Filed w) {q : Addr} (hp : w.heap p = some c) (hq : w.heap q = some c')
    (hne : q ≠ p) : c'.fd ≠ c.fd := by
  intro heq
  have hfiled := h.filed q c' hq
  rw [heq, h.filed p c hp] at hfiled
  exact hne (Option.some.inj (Option.some.inj hfiled)).symm

/-! ## What leaves the table as it is -/

/-- The table is the same, and so are the live connections and their fds. -/
structure SameTable (w w' : SignalingWorker) : Prop where
  conns : w'.conns = w.conns
  openFds : w'.openFds = w.openFds
  fd : ∀ p, (w'.heap p).map (·.fd) = (w.heap p).map (·.fd)

lemma SameTable.refl (w : SignalingWorker) : SameTable w w := ⟨rfl, rfl, fun _ => rfl⟩

lemma SameTable.trans (h : SameTable w w') (h' : SameTable w' w'') : SameTable w w'' :=
  ⟨h'.conns.trans h.conns, h'.openFds.trans h.openFds, fun p => (h'.fd p).trans (h.fd p)⟩

lemma SameTable.exists_conn (h : SameTable w w') (hp : w'.heap p = some c') :
    ∃ c, w.heap p = some c ∧ c.fd = c'.fd := by
  have hfd := h.fd p
  rw [hp, Option.map_some] at hfd
  exact Option.map_eq_some_iff.mp hfd.symm

lemma SameTable.symm (h : SameTable w w') : SameTable w' w :=
  ⟨h.conns.symm, h.openFds.symm, fun p => (h.fd p).symm⟩

lemma Filed.congr (h : Filed w) (hsame : SameTable w w') : Filed w' where
  filed p c' hp := by
    obtain ⟨c, hc, hfd⟩ := hsame.exists_conn hp
    rw [hsame.conns, ← hfd]
    exact h.filed p c hc
  live fd p hfd := by
    rw [hsame.conns] at hfd
    obtain ⟨c, hc, hcfd⟩ := h.live fd p hfd
    obtain ⟨c', hc', hfd'⟩ := hsame.symm.exists_conn hc
    exact ⟨c', hc', hfd'.trans hcfd⟩
  fds p c' hp := by
    obtain ⟨c, hc, hfd⟩ := hsame.exists_conn hp
    rw [hsame.openFds, ← hfd]
    exact h.fds p c hc

lemma sameTable_setConn (hp : w.heap p = some c) (hfd : c'.fd = c.fd) :
    SameTable w (w.setConn p c') := by
  refine ⟨rfl, rfl, fun q => ?_⟩
  by_cases hq : q = p
  · subst hq
    simp [setConn, hp, hfd]
  · simp [setConn, Function.update_of_ne hq]

lemma sameTable_addReply (hp : w.heap p = some c) (reply : Reply) :
    SameTable w (w.addReply p c reply) := sameTable_setConn hp rfl

lemma Hands.sameTable {C : Sent → Prop} {r : Int × SignalingWorker} (h : Hands notify w C r) :
    SameTable w r.2 := by
  cases h <;> exact ⟨rfl, rfl, fun _ => rfl⟩

lemma sameTable_processRequest (hp : w.heap p = some c)
    (h : processRequest json notify p c w header body = .ok (ret, w')) : SameTable w w' := by
  have hr := handled_processRequest json notify p c w header body
  rw [h] at hr
  cases hr with
  | refused => exact .refl w
  | asked _ _ hands => exact hands.sameTable
  | replied _ hands =>
    exact hands.sameTable.trans (sameTable_addReply (hands.heap ▸ hp) _)

lemma ok_of_requestOf {w₀ : Except JsonException SignalingWorker}
    (hr : requestOf json notify p w₀ header body = (ret, .ok w')) : ∃ w, w₀ = .ok w := by
  cases w₀ with
  | error e => cases hr
  | ok w => exact ⟨w, rfl⟩

lemma sameTable_requestOf (hr : requestOf json notify p (.ok w) header body = (ret, .ok w')) :
    SameTable w w' := by
  unfold requestOf at hr
  dsimp only at hr
  split at hr
  · cases hr
    exact .refl w
  · split at hr
    · cases hr
    · rename_i hp _ _ _ heq
      cases hr
      exact sameTable_processRequest hp heq

/-- Whatever requests the loop processes, it leaves the table as it is. -/
lemma sameTable_loop {q q' : Framing}
    (hr : ProcessQueryBuffer (requestOf json notify p) q (.ok w) (ret, q', .ok w')) :
    SameTable w w' := by
  refine Yields.invariant (I := fun s => ∀ w₁, s.2 = .ok w₁ → SameTable w w₁)
    (Q := fun r => ∀ w₁, r.2.2 = .ok w₁ → SameTable w w₁) ?_ ?_ ?_ hr w' rfl
  · rintro ⟨q, w₀⟩ ⟨q₁, w₁⟩ hI hnext w₂ rfl
    obtain ⟨-, ⟨-, -, rfl, -⟩ | ⟨-, hreq, -⟩⟩ := processQueryIter_eq_inl hnext
    · exact hI w₂ rfl
    · obtain ⟨w₁, rfl⟩ := ok_of_requestOf hreq
      exact (hI w₁ rfl).trans (sameTable_requestOf hreq)
  · rintro ⟨q, w₀⟩ ⟨ret, q₁, w₁⟩ hI hexit w₂ rfl
    obtain ⟨-, ⟨-, rfl, -⟩ | ⟨-, -, ⟨-, -, rfl⟩ | ⟨-, r, -, hreq⟩⟩⟩ := processQueryIter_eq_inr hexit
    · exact hI w₂ rfl
    · exact hI w₂ rfl
    · obtain ⟨w₁, rfl⟩ := ok_of_requestOf hreq
      exact (hI w₁ rfl).trans (sameTable_requestOf hreq)
  · intro w₁ hw₁
    cases hw₁
    exact .refl w

/-! ## What changes it -/

lemma closeConn_eq_some (hw : w.closeConn p = some w') : ∃ c, w.heap p = some c ∧
    c.fd < w.conns.length ∧ w' = { w with
      conns := w.conns.set c.fd none
      openFds := w.openFds.filter (· ≠ c.fd)
      heap := Function.update w.heap p none
      closed := c.serial :: w.closed } := by
  unfold SignalingWorker.closeConn at hw
  cases hp : w.heap p with
  | none =>
    rw [hp] at hw
    cases hw
  | some c =>
    rw [hp] at hw
    obtain ⟨hlen, hw⟩ := Option.ite_none_right_eq_some.mp hw
    exact ⟨c, rfl, hlen, (Option.some.inj hw).symm⟩

lemma Filed.closeConn (h : Filed w) (hw : w.closeConn p = some w') : Filed w' := by
  obtain ⟨c, hp, hlen, rfl⟩ := closeConn_eq_some hw
  constructor
  case filed =>
    intro q d hq
    obtain ⟨hqp, hq⟩ := update_none_eq_some hq
    rw [List.getElem?_set_ne (h.fd_ne hp hq hqp).symm]
    exact h.filed q d hq
  case live =>
    intro fd q hq
    dsimp only at hq
    by_cases heq : c.fd = fd
    · rw [heq, List.getElem?_set_self (heq ▸ hlen)] at hq
      cases hq
    · rw [List.getElem?_set_ne heq] at hq
      obtain ⟨d, hd, hdfd⟩ := h.live fd q hq
      have hqp : q ≠ p := by
        rintro rfl
        rw [hp] at hd
        cases hd
        exact heq hdfd
      exact ⟨d, (Function.update_of_ne hqp ..).trans hd, hdfd⟩
  case fds =>
    intro q d hq
    obtain ⟨hqp, hq⟩ := update_none_eq_some hq
    have hne : d.fd ≠ c.fd := h.fd_ne hp hq hqp
    exact List.mem_filter.mpr ⟨h.fds q d hq, by simpa using hne⟩

/-- There is an entry for `n`, or the table can be grown to have one. -/
def Room (w : SignalingWorker) (n : Nat) : Prop :=
  n < w.conns.length ∨ 0 < n ∧ n * 2 < 2 ^ 31

lemma length_growConns (conns : List (Option Addr)) (n : Nat) :
    (growConns conns n).length = if conns.length ≤ n then n * 2 else conns.length := by
  unfold growConns
  split
  · rw [List.length_append, List.length_replicate]
    omega
  · rfl

/-- Growing `_conns` files no connection. -/
lemma getElem?_growConns (conns : List (Option Addr)) (n i : Nat) (q : Addr) :
    (growConns conns n)[i]? = some (some q) ↔ conns[i]? = some (some q) := by
  unfold growConns
  split
  · by_cases hi : i < conns.length
    · rw [List.getElem?_append_left hi]
    · rw [List.getElem?_append_right (Nat.le_of_not_lt hi),
        List.getElem?_eq_none (Nat.le_of_not_lt hi)]
      simp [List.getElem?_replicate]
  · rfl

/-- A new connection finds room, or the event comes to an end in the middle. -/
lemma newConn_eq (w : SignalingWorker) (p : Addr) (now : Nat) {fd : Int} (hfd : 0 ≤ fd) :
    w.newConn fd p now = none ∧ ¬ Room w fd.toNat ∨
    Room w fd.toNat ∧ fd.toNat < (growConns w.conns fd.toNat).length ∧
      w.newConn fd p now = some { w with
        conns := (growConns w.conns fd.toNat).set fd.toNat (some p)
        openFds := fd.toNat :: w.openFds
        heap := Function.update w.heap p
          (some { fd := fd.toNat, serial := w.accepted, lastInteraction := now })
        accepted := w.accepted + 1 } := by
  have hlength := length_growConns w.conns fd.toNat
  unfold SignalingWorker.newConn Room
  rw [if_neg (Int.not_lt.mpr hfd)]
  dsimp only
  by_cases hlen : w.conns.length ≤ fd.toNat
  · rw [if_pos hlen] at hlength
    by_cases hbig : 2 ^ 31 ≤ fd.toNat * 2
    · left
      rw [if_pos ⟨hlen, hbig⟩]
      exact ⟨rfl, by omega⟩
    · rw [if_neg (by omega)]
      by_cases hzero : fd.toNat = 0
      · left
        rw [if_neg (by omega)]
        exact ⟨rfl, by omega⟩
      · right
        rw [if_pos (by omega)]
        exact ⟨by omega, by omega, rfl⟩
  · rw [if_neg hlen] at hlength
    right
    rw [if_neg (by omega), if_pos (by omega)]
    exact ⟨by omega, by omega, rfl⟩

lemma newConn_eq_some {fd : Int} (hw : w.newConn fd p now = some w') : fd < 0 ∧ w' = w ∨
    0 ≤ fd ∧ Room w fd.toNat ∧ fd.toNat < (growConns w.conns fd.toNat).length ∧ w' = { w with
      conns := (growConns w.conns fd.toNat).set fd.toNat (some p)
      openFds := fd.toNat :: w.openFds
      heap := Function.update w.heap p
        (some { fd := fd.toNat, serial := w.accepted, lastInteraction := now })
      accepted := w.accepted + 1 } := by
  by_cases hneg : fd < 0
  · rw [SignalingWorker.newConn, if_pos hneg] at hw
    cases hw
    exact .inl ⟨hneg, rfl⟩
  · rcases newConn_eq w p now (Int.not_lt.mp hneg) with
      ⟨hnone, -⟩ | ⟨hroom, hlen, hsome⟩
    · cases hnone.symm.trans hw
    · exact .inr ⟨Int.not_lt.mp hneg, hroom, hlen, Option.some.inj (hw.symm.trans hsome)⟩

lemma Filed.newConn {fd : Int} (h : Filed w) (hp : w.heap p = none)
    (hopen : fd.toNat ∉ w.openFds) (hw : w.newConn fd p now = some w') : Filed w' := by
  rcases newConn_eq_some hw with ⟨-, rfl⟩ | ⟨-, -, hlen, rfl⟩
  · exact h
  have hne : ∀ q d, w.heap q = some d → d.fd ≠ fd.toNat := by
    intro q d hq heq
    exact hopen (heq ▸ h.fds q d hq)
  constructor
  case filed =>
    intro q d hq
    rcases update_some_eq_some hq with ⟨rfl, rfl⟩ | ⟨-, hq⟩
    · exact List.getElem?_set_self hlen
    · rw [List.getElem?_set_ne (hne q d hq).symm, getElem?_growConns]
      exact h.filed q d hq
  case live =>
    intro i q hq
    dsimp only at hq
    by_cases hi : fd.toNat = i
    · rw [← hi, List.getElem?_set_self hlen] at hq
      cases hq
      exact ⟨_, Function.update_self .., hi⟩
    · rw [List.getElem?_set_ne hi, getElem?_growConns] at hq
      obtain ⟨d, hd, hdfd⟩ := h.live i q hq
      have hqp : q ≠ p := by
        rintro rfl
        rw [hp] at hd
        cases hd
      exact ⟨d, (Function.update_of_ne hqp ..).trans hd, hdfd⟩
  case fds =>
    intro q d hq
    rcases update_some_eq_some hq with ⟨rfl, rfl⟩ | ⟨-, hq⟩
    · exact List.mem_cons_self
    · exact List.mem_cons_of_mem _ (h.fds q d hq)

/-! ## Events -/

lemma Filed.readQuery {fuel fd : Nat} {r : ReadResult} (h : Filed w)
    (hw : readQuery json notify fuel w fd r now = some w') : Filed w' := by
  unfold SignalingWorker.readQuery at hw
  split at hw
  · cases hw
    exact h
  · split at hw
    · rename_i p _
      split at hw
      · cases hw
      · rename_i c hp
        split at hw
        · split at hw
          · have hset : Filed (w.setConn p { c with lastInteraction := now }) :=
              h.congr (sameTable_setConn hp rfl)
            exact hset.closeConn hw
          · rename_i q _
            dsimp only at hw
            split at hw
            · rename_i ret q₁ w₁ hr
              have hread : SameTable w
                  (w.setConn p { c with toFraming := q, lastInteraction := now }) :=
                sameTable_setConn hp rfl
              have hloop : SameTable w w₁ := hread.trans (sameTable_loop ⟨fuel, hr⟩)
              split at hw
              · cases hw
              · rename_i c₁ hp₁
                have hset : Filed (w₁.setConn p { c₁ with toFraming := q₁ }) :=
                  h.congr (hloop.trans (sameTable_setConn hp₁ rfl))
                split at hw
                · cases hw
                  exact hset
                · exact hset.closeConn hw
            · cases hw
        · cases hw
    · cases hw

lemma Filed.writeReply {fd : Nat} {results : List Int} (h : Filed w)
    (hw : w.writeReply fd results now = some w') : Filed w' := by
  unfold SignalingWorker.writeReply at hw
  split at hw
  · cases hw
    exact h
  · split at hw
    · split at hw
      · cases hw
      · rename_i c hp
        split at hw
        · cases hw
        · rename_i replyList curRespPos _
          have hset : Filed (w.setConn _ { c with replyList, curRespPos }) :=
            h.congr (sameTable_setConn hp rfl)
          exact hset.closeConn hw
        · cases hw
          exact h.congr (sameTable_setConn hp rfl)
    · cases hw
      exact h

lemma Filed.processTimeout (h : Filed w)
    (hw : w.processTimeout connectionTimeout p now = some w') : Filed w' := by
  unfold SignalingWorker.processTimeout at hw
  split at hw
  · cases hw
  · split at hw
    · exact h.closeConn hw
    · cases hw
      exact h

lemma sameTable_rtcProcess {i : Nat} {offer : Bytes}
    (hw : w.rtcProcess i ret offer = some w') : SameTable w w' := by
  unfold SignalingWorker.rtcProcess at hw
  split at hw
  · cases hw
  · dsimp only at hw
    split at hw <;>
    · cases hw
      exact ⟨rfl, rfl, fun _ => rfl⟩

lemma sameTable_responseServerOffer {m : Sent} {beyond : Bytes}
    (hw : w.responseServerOffer json m beyond = some w') : SameTable w w' := by
  unfold SignalingWorker.responseServerOffer at hw
  split at hw
  · cases hw
    exact .refl w
  · split at hw
    · cases hw
      exact .refl w
    · split at hw
      · cases hw
        exact .refl w
      · split at hw
        · cases hw
        · rename_i c hp
          cases hw
          have hreply := sameTable_addReply (w := w) hp
            (buildReply ((c.querybuf ++ beyond).take xheadSize) (json.write (offerResult m.msg)))
          exact ⟨hreply.conns, hreply.openFds, hreply.fd⟩

lemma sameTable_processRtcMsg {beyond : Bytes}
    (hw : w.processRtcMsg json beyond = some w') : SameTable w w' := by
  unfold SignalingWorker.processRtcMsg at hw
  split at hw
  · cases hw
    exact .refl w
  · rename_i m qMsg _
    have hpop : SameTable w { w with qMsg } := ⟨rfl, rfl, fun _ => rfl⟩
    dsimp only at hw
    split at hw
    · exact hpop.trans (sameTable_responseServerOffer hw)
    · cases hw
      exact hpop

lemma Filed.step (h : Filed w) (hstep : WorkerStep json notify connectionTimeout w e w') :
    Filed w' := by
  obtain ⟨fuel, hw⟩ := hstep
  cases e with
  | newConn fd p now =>
    obtain ⟨⟨hp, hfd⟩, hw⟩ := Option.ite_none_right_eq_some.mp hw
    exact h.newConn (Option.isNone_iff_eq_none.mp hp) hfd hw
  | readQuery fd r now => exact h.readQuery hw
  | writeReply fd results now => exact h.writeReply hw
  | timeout p now => exact h.processTimeout hw
  | rtcProcess i ret offer => exact h.congr (sameTable_rtcProcess hw)
  | rtcLost i =>
    cases hw
    exact h.congr ⟨rfl, rfl, fun _ => rfl⟩
  | rtcMsg beyond => exact h.congr (sameTable_processRtcMsg hw)

/-! ## Runs -/

/-- The event can come: the kernel hands out no fd that is open, and the allocator no address that
is taken. -/
def Comes (w : SignalingWorker) : WorkerEvent → Prop
  | .newConn fd p _ => w.heap p = none ∧ fd.toNat ∉ w.openFds
  | _ => True

/-- What an event writes in `_conns` is in range: the entry of a new connection, and that of any
connection that it closes. What it reads it checks. -/
def InRange (w : SignalingWorker) : WorkerEvent → Prop
  | .newConn fd p now => (w.newConn fd p now).isSome = true
  | _ => ∀ p, (w.heap p).isSome = true → (w.closeConn p).isSome = true

/-- One event, and `none` after one that is not in range. -/
def TableStep (json : JsonLib) (notify : Nat → Bool) (connectionTimeout : Nat)
    (s : Option SignalingWorker) (e : WorkerEvent) (t : Option SignalingWorker) : Prop :=
  ∃ w, s = some w ∧
    ((InRange w e ∧ ∃ w', WorkerStep json notify connectionTimeout w e w' ∧ t = some w') ∨
      (Comes w e ∧ ¬ InRange w e ∧ t = none))

/-- No access was out of range, every entry of the table is a live connection with its fd, and every
live connection has its entry. -/
def TableSound (s : Option SignalingWorker) : Prop :=
  ∃ w, s = some w ∧
    (∀ fd p, w.conns[fd]? = some (some p) → ∃ c, w.heap p = some c ∧ c.fd = fd) ∧
    ∀ p c, w.heap p = some c → c.fd < w.conns.length ∧ w.conns[c.fd]? = some (some p)

/-- The condition on an event: there is room for a new connection. -/
def HasRoom : Option SignalingWorker → WorkerEvent → Prop
  | some w, .newConn fd _ _ => 0 ≤ fd → Room w fd.toNat
  | _, _ => True

lemma newConn_isSome_iff {fd : Int} :
    (w.newConn fd p now).isSome = true ↔ (0 ≤ fd → Room w fd.toNat) := by
  by_cases hneg : fd < 0
  · rw [SignalingWorker.newConn, if_pos hneg]
    exact iff_of_true rfl fun hpos => absurd hneg (Int.not_lt.mpr hpos)
  · have hpos := Int.not_lt.mp hneg
    rcases newConn_eq w p now hpos with ⟨hnone, hroom⟩ | ⟨hroom, -, hsome⟩
    · rw [hnone]
      exact iff_of_false (by simp) fun h => hroom (h hpos)
    · rw [hsome]
      exact iff_of_true rfl fun _ => hroom

lemma Filed.isSome_closeConn (h : Filed w) (hp : (w.heap p).isSome = true) :
    (w.closeConn p).isSome = true := by
  obtain ⟨c, hc⟩ := Option.isSome_iff_exists.mp hp
  unfold SignalingWorker.closeConn
  rw [hc]
  dsimp only
  rw [if_pos (h.lt_length hc)]
  rfl

lemma Filed.inRange (h : Filed w) (hroom : HasRoom (some w) e) : InRange w e := by
  cases e with
  | newConn fd p now => exact newConn_isSome_iff.mpr hroom
  | readQuery | writeReply | timeout | rtcProcess | rtcLost | rtcMsg =>
    exact fun p hp => h.isSome_closeConn hp

/-- Whatever order connections are accepted, read, written and closed in, the table agrees with the
live connections and is accessed in range as long as, and only as long as, there is room for every
connection that is accepted. -/
theorem table_sound_iff (json : JsonLib) (notify : Nat → Bool) (connectionTimeout : Nat)
    (es : List WorkerEvent) :
    Along (TableStep json notify connectionTimeout) TableSound (some initial) es ↔
      Meets (TableStep json notify connectionTimeout) HasRoom (some initial) es := by
  refine along_iff_meets (I := fun s => ∃ w, s = some w ∧ Filed w) ?_ ?_ ?_
    ⟨initial, rfl, filed_initial⟩
  · rintro s ⟨w, rfl, hw⟩
    exact ⟨w, rfl, hw.live, fun p c hp => ⟨hw.lt_length hp, hw.filed p c hp⟩⟩
  · rintro s e t ⟨w, rfl, hw⟩ hroom ⟨w₁, heq, ⟨-, w', hstep, rfl⟩ | ⟨-, hrange, -⟩⟩
    · cases heq
      exact ⟨w', rfl, hw.step hstep⟩
    · cases heq
      exact absurd (hw.inRange hroom) hrange
  · rintro s e t ⟨w, rfl, hw⟩ ⟨w₁, heq, ⟨hrange, -⟩ | ⟨-, -, rfl⟩⟩ ⟨w', hw', -⟩
    · cases heq
      cases e with
      | newConn fd p now => exact newConn_isSome_iff.mp hrange
      | readQuery | writeReply | timeout | rtcProcess | rtcLost | rtcMsg => trivial
    · cases hw'

/-- The first connection comes with fd 0: the table is resized to no entries, and its first one is
written. -/
theorem firstFd_not_sound :
    ¬ Along (TableStep bracketJson (fun _ => true) 1000) TableSound (some initial)
      [.newConn 0 1 0] := by
  intro h
  have hstep : TableStep bracketJson (fun _ => true) 1000 (some initial) (.newConn 0 1 0)
      none := by
    refine ⟨initial, rfl, .inr ⟨⟨rfl, by simp [initial]⟩, ?_, rfl⟩⟩
    rw [InRange, newConn_isSome_iff]
    simp [Room, initial]
  obtain ⟨w, hw, -⟩ := h.2 none hstep
  cases hw

end XrtcServer.Signaling
