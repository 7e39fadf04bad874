import Mathlib.Data.Int.CardIntervalMod
import XrtcServer.Core.RelayRuns

/-!
# New connections

The thread of the `SignalingServer` accepts connections and hands each one to the next signaling
worker, through the queue and the pipe of that worker. The file runs the server and its workers in any
order: no worker waits for a connection of another one, and none has two more than another.
-/

namespace XrtcServer.Signaling.NewConnections
open XrtcServer.Core

/-- A connection in a queue of new connections. -/
structure NewConn (n : Nat) where
  fd : Int
  /-- A ghost: the worker that the server chose. -/
  worker : Fin n
  deriving DecidableEq, Repr

/-- The server is `none`, and the workers are the others. A worker keeps what it takes. -/
def handOver (n : Nat) : Network (Option (Fin n)) (NewConn n) Unit (NewConn n) where
  handle _ _ _ := none
  job c := c
  route c := [some c.worker]
  fits _ _ := True
  nodup _ := List.nodup_singleton _

structure SignalingServer (n : Nat) where
  nextWorkerIndex : Nat := 0
  relay : Relay (Option (Fin n)) (NewConn n) := {}

/-- What `_dispatch_new_conn` makes of `_next_worker_index`. -/
def advance (n index : Nat) : Nat :=
  let index := index + 1
  if index ≥ n then 0 else index

/-- `_dispatch_new_conn` as far as the `produce` of `notify_new_conn`. The token comes later. Outside
`_workers` there is no worker to notify. -/
def dispatchNewConn {n : Nat} (s : SignalingServer n) (fd : Int) : Option (SignalingServer n) :=
  if h : s.nextWorkerIndex < n then
    let worker : Fin n := ⟨s.nextWorkerIndex, h⟩
    ((handOver n).step s.relay (.inject none ⟨fd, worker⟩ (some worker))).map fun relay =>
      { nextWorkerIndex := advance n s.nextWorkerIndex, relay }
  else none

inductive ServerEvent (n : Nat)
  | acceptNewConn (cfd : Int)
  | notify (written : Bool)
  | readToken (k : Fin n)
  | consume (k : Fin n)
  deriving DecidableEq, Repr

namespace ServerEvent

variable {n : Nat}

/-- The connection that `tcp_accept` returns. -/
def accepted : ServerEvent n → Option Int
  | .acceptNewConn cfd => if cfd = -1 then none else some cfd
  | _ => none

/-- What the threads do apart from accepting. -/
def relay : ServerEvent n → Option (RelayEvent (Option (Fin n)) (NewConn n) Unit)
  | .acceptNewConn _ => none
  | .notify written => some (.notify none written)
  | .readToken k => some (.read (some k))
  | .consume k => some (.pop (some k) ())

/-- Writes to pipes succeed. -/
def Ok : ServerEvent n → Prop
  | .notify written => written = true
  | _ => True

end ServerEvent

/-- One step of the server or of a worker. -/
def step {n : Nat} (s : SignalingServer n) (e : ServerEvent n) : Option (SignalingServer n) :=
  match e.relay, e.accepted with
  | some inner, _ => ((handOver n).step s.relay inner).map fun relay => { s with relay }
  | none, some fd => dispatchNewConn s fd
  | none, none => some s

variable {n : Nat} {s t : SignalingServer n} {e : ServerEvent n} {es : List (ServerEvent n)}

def ServerSteps (s : SignalingServer n) (e : ServerEvent n) (t : SignalingServer n) : Prop :=
  step s e = some t

/-- The connections at the places that are `k` modulo `n`. -/
def share (n k : Nat) (fds : List Int) : List Int :=
  (fds.zipIdx.filter (·.2 % n = k)).map Prod.fst

/-- The connections with the workers that their places give them. -/
def assigned (hn : 0 < n) (fds : List Int) : List (NewConn n) :=
  fds.zipIdx.map fun p => ⟨p.1, p.2 % n, Nat.mod_lt _ hn⟩

lemma assigned_concat (hn : 0 < n) (fds : List Int) (fd : Int) :
    assigned hn (fds ++ [fd]) =
      assigned hn fds ++ [⟨fd, fds.length % n, Nat.mod_lt _ hn⟩] := by
  simp [assigned, List.zipIdx_append]

lemma filter_assigned (hn : 0 < n) (k : Fin n) (fds : List Int) :
    ((assigned hn fds).filter (·.worker = k)).map (·.fd) = share n k fds := by
  rw [assigned, share, List.filter_map, List.map_map]
  congr 1
  refine List.filter_congr fun p _ => ?_
  simp [Fin.ext_iff]

lemma advance_mod (hn : 0 < n) (i : Nat) : advance n (i % n) = (i + 1) % n := by
  have hlt := Nat.mod_lt i hn
  rw [advance, ← Nat.mod_add_mod i n 1]
  split_ifs with hge
  · rw [show i % n + 1 = n by omega, Nat.mod_self]
  · exact (Nat.mod_eq_of_lt (by omega)).symm

lemma length_share (k : Fin n) (fds : List Int) :
    (share n k fds).length = fds.length / n + if k < fds.length % n then 1 else 0 := by
  have hn := k.pos
  have hcount : (share n k fds).length = fds.length.count (· ≡ k [MOD n]) := by
    induction fds using List.reverseRecOn with
    | nil => rfl
    | append_singleton fds fd ih =>
      have hk : (k : Nat) % n = k := Nat.mod_eq_of_lt k.2
      rw [List.length_append, List.length_singleton, Nat.count_succ, ← ih, share, share,
        List.zipIdx_append, List.filter_append, List.map_append, List.length_append]
      simp only [Nat.ModEq, hk]
      split_ifs with hmod <;> simp [hmod]
  rw [hcount, Nat.count_modEq_card _ hn, Nat.mod_eq_of_lt k.2]

/-! ## Runs -/

structure Dispatched (hn : 0 < n) (fds : List Int) (s : SignalingServer n) : Prop where
  inv : (handOver n).Inv s.relay
  index : s.nextWorkerIndex = fds.length % n
  injected : s.relay.injected = assigned hn fds
  idle : ∀ k, s.relay.hand (some k) = .idle

lemma lawful_pop (k : Fin n) : (handOver n).Lawful (.pop (some k) ()) := by
  intro c hc
  obtain ⟨hmem, -⟩ := hc
  obtain rfl : k = c.worker := by simpa [handOver] using hmem
  exact ⟨rfl, fun q hq => absurd hq (Option.not_mem_none q)⟩

lemma ServerEvent.Ok.lawful {inner : RelayEvent (Option (Fin n)) (NewConn n) Unit} (h : e.Ok)
    (hinner : e.relay = some inner) : (handOver n).Lawful inner ∧ inner.Inner := by
  cases e with
  | acceptNewConn cfd => cases hinner
  | notify written =>
    cases hinner
    exact ⟨h, trivial⟩
  | readToken k =>
    cases hinner
    exact ⟨trivial, trivial⟩
  | consume k =>
    cases hinner
    exact ⟨lawful_pop k, trivial⟩

lemma update_server (hand : Option (Fin n) → Hand (Option (Fin n)) (NewConn n))
    (x : Hand (Option (Fin n)) (NewConn n)) (k : Fin n) :
    Function.update hand none x (some k) = hand (some k) :=
  Function.update_of_ne (Option.some_ne_none k) x hand

lemma Dispatched.accept {hn : 0 < n} {fds : List Int} (h : Dispatched hn fds s) {fd : Int}
    (hs : dispatchNewConn s fd = some t) : Dispatched hn (fds ++ [fd]) t := by
  have hlt : s.nextWorkerIndex < n := by
    rw [h.index]
    exact Nat.mod_lt _ hn
  rw [dispatchNewConn, dif_pos hlt] at hs
  obtain ⟨relay, hrelay, rfl⟩ := Option.map_eq_some_iff.mp hs
  have hsent : (handOver n).Lawful (.inject (β := Unit) none
      ⟨fd, s.nextWorkerIndex, hlt⟩ (some ⟨s.nextWorkerIndex, hlt⟩)) := ⟨rfl, trivial⟩
  refine ⟨h.inv.step hsent hrelay, ?_, ?_, ?_⟩
  · rw [List.length_append, List.length_singleton, ← advance_mod hn, ← h.index]
  all_goals
    rw [Network.step] at hrelay
    split at hrelay
    swap
    · cases hrelay
    cases hrelay
  · simp only [h.injected, assigned_concat, h.index]
  · intro k
    change Function.update s.relay.hand none (.pushed (some ⟨_, hlt⟩)) (some k) = .idle
    rw [update_server, h.idle]

lemma idle_of_step {r r' : Relay (Option (Fin n)) (NewConn n)}
    {inner : RelayEvent (Option (Fin n)) (NewConn n) Unit} (hinner : e.relay = some inner)
    (hs : (handOver n).step r inner = some r') (k : Fin n) (hidle : r.hand (some k) = .idle) :
    r'.hand (some k) = .idle := by
  cases e with
  | acceptNewConn cfd => cases hinner
  | notify written =>
    cases hinner
    rw [Network.step] at hs
    split at hs
    · cases hs
      change Function.update r.hand none .idle (some k) = .idle
      rw [update_server, hidle]
    · cases hs
  | readToken j =>
    cases hinner
    rw [Network.step] at hs
    split at hs
    · obtain ⟨x, -, rfl⟩ := Option.map_eq_some_iff.mp hs
      exact hidle
    · cases hs
  | consume j =>
    cases hinner
    rw [Network.step] at hs
    split at hs
    · cases hs
      -- The worker has nothing to hand on.
      have hnone : ∀ a : Option (NewConn n), Hand.ofOption (a.bind ((handOver n).handle (some j) ()))
          = .idle := by
        intro a
        cases a <;> rfl
      dsimp only
      rw [hnone]
      by_cases hj : k = j
      · rw [hj, Function.update_self]
      · rw [Function.update_of_ne (by simpa using hj), hidle]
    · cases hs

lemma Dispatched.step {hn : 0 < n} {fds : List Int} (h : Dispatched hn fds s) (he : e.Ok)
    (hs : ServerSteps s e t) : Dispatched hn (fds ++ e.accepted.toList) t := by
  rw [ServerSteps, NewConnections.step] at hs
  split at hs
  · rename_i inner hinner
    obtain ⟨hlawful, hkeeps⟩ := he.lawful hinner
    obtain ⟨relay, hrelay, rfl⟩ := Option.map_eq_some_iff.mp hs
    have haccepted : e.accepted = none := by
      cases e with
      | acceptNewConn cfd => cases hinner
      | _ => rfl
    rw [haccepted, Option.toList_none, List.append_nil]
    exact ⟨h.inv.step hlawful hrelay, h.index,
      (Network.injected_of_inner hkeeps hrelay).trans h.injected,
      fun k => idle_of_step hinner hrelay k (h.idle k)⟩
  · rename_i fd _ hfd
    rw [hfd]
    exact h.accept hs
  · rename_i hfd
    cases hs
    rw [hfd, Option.toList_none, List.append_nil]
    exact h

lemma dispatched_of_leads (hn : 0 < n) (hrun : Leads ServerSteps {} es s) (hok : ∀ e ∈ es, e.Ok) :
    Dispatched hn (es.filterMap (·.accepted)) s := by
  refine hrun.invariant (J := fun es s => (∀ e ∈ es, e.Ok) →
    Dispatched hn (es.filterMap (·.accepted)) s)
      (fun _ => ⟨Network.inv_init _, ?_, rfl, fun _ => rfl⟩) ?_ hok
  · exact (Nat.zero_mod n).symm
  · intro es s e t ih hs hok
    rw [List.forall_mem_append] at hok
    have hstep := (ih hok.1).step (hok.2 e (List.mem_singleton_self e)) hs
    rw [List.filterMap_append]
    cases haccepted : e.accepted <;> simpa [haccepted] using hstep

/-- The connections that worker `k` has taken. -/
def received (s : SignalingServer n) (k : Fin n) : List Int :=
  (s.relay.box (some k)).taken.map (·.fd)

lemma onRoute_worker (k : Fin n) (l : List (NewConn n)) :
    (handOver n).onRoute [some k] l = l.filter (·.worker = k) := by
  rw [Network.onRoute]
  simp [handOver]

lemma received_eq (h : (handOver n).Inv s.relay) (k : Fin n) :
    received s k = ((handOver n).onRoute [some k] (s.relay.box (some k)).taken).map (·.fd) := by
  rw [onRoute_worker, List.filter_eq_self.mpr]
  · rfl
  · intro c hc
    obtain ⟨hmem, -⟩ := h.sent (some k) c (List.mem_append_left _ hc)
    have hk : k = c.worker := by simpa [handOver] using hmem
    exact decide_eq_true hk.symm

/-- Neither the server nor a worker has anything to do before the next connection. -/
def ServerRests (s : SignalingServer n) : Prop :=
  ∀ e t, e.relay ≠ none → e.Ok → ¬ ServerSteps s e t

/-- The server does not get any message. -/
lemma box_server (h : (handOver n).Inv s.relay) :
    (s.relay.box none).queue = [] ∧ (s.relay.box none).tokens = 0 ∧
      (s.relay.box none).reading = false := by
  have hqueue : (s.relay.box none).queue = [] := by
    refine List.eq_nil_iff_forall_not_mem.mpr fun c hc => ?_
    obtain ⟨hmem, -⟩ := h.sent none c (List.mem_append_right _ hc)
    simp [handOver] at hmem
  have hbalanced := h.balanced none
  rw [Mailbox.Balanced, hqueue, List.length_nil] at hbalanced
  refine ⟨hqueue, by omega, ?_⟩
  cases hreading : (s.relay.box none).reading with
  | false => rfl
  | true =>
    rw [hreading, Bool.toNat_true] at hbalanced
    omega

lemma Dispatched.quiet {hn : 0 < n} {fds : List Int} (h : Dispatched hn fds s)
    (hrests : ServerRests s) : s.relay.Quiet := by
  have hstuck : ∀ (e : ServerEvent n) inner r, e.relay = some inner → e.Ok →
      (handOver n).step s.relay inner ≠ some r := by
    intro e inner r hinner he hr
    refine hrests e { s with relay := r } (by simp [hinner]) he ?_
    rw [ServerSteps, NewConnections.step]
    split
    · rename_i inner' hinner'
      cases hinner.symm.trans hinner'
      rw [hr, Option.map_some]
    all_goals
      rename_i hinner' _
      cases hinner.symm.trans hinner'
  obtain ⟨hqueue, htokens, hreading⟩ := box_server h.inv
  refine h.inv.quiet (C := fun e => e.Inner ∧ ∀ k written, e = .notify k written → written = true)
    (fun k => ?_) fun e t hC hs => ?_
  · exact ⟨⟨trivial, fun _ _ h => by cases h; rfl⟩, ⟨trivial, nofun⟩, ⟨(), trivial, nofun⟩,
      trivial, nofun⟩
  obtain ⟨hinner, hwritten⟩ := hC
  rw [Network.Step] at hs
  cases e with
  | inject => exact hinner
  | notify k written =>
    cases k with
    | none => exact hstuck (.notify written) _ t rfl (hwritten _ _ rfl) hs
    | some k => simp [Network.step, h.idle] at hs
  | read k =>
    cases k with
    | none =>
      have hread : (s.relay.box none).read = none := if_neg fun h => by omega
      rw [Network.step, hread] at hs
      split at hs <;> cases hs
    | some k => exact hstuck (.readToken k) _ t rfl trivial hs
  | pop k b =>
    cases k with
    | none => simp [Network.step, hreading] at hs
    | some k => exact hstuck (.consume k) _ t rfl trivial hs
  | forward k =>
    rw [Network.step] at hs
    split at hs
    · rename_i c next hhand
      have hafter : after [some c.worker] k = some next := (h.inv.holding k c next hhand).1
      cases hafter
    · cases hs

/-- Steps other than accepting are steps of the threads. -/
lemma leads_relay (hrun : Leads ServerSteps s es t) (hes : ∀ e ∈ es, e.relay ≠ none ∧ e.Ok) :
    ∃ inner, inner.length = es.length ∧ (∀ e ∈ inner, e.Inner ∧ (handOver n).Lawful e) ∧
      Leads (handOver n).Step s.relay inner t.relay := by
  induction hrun with
  | nil => exact ⟨[], rfl, nofun, .nil⟩
  | @snoc es t u e hrun hs ih =>
    rw [List.forall_mem_append] at hes
    obtain ⟨inner, hlength, hinner, hleads⟩ := ih hes.1
    obtain ⟨hrelay, he⟩ := hes.2 e (List.mem_singleton_self e)
    obtain ⟨event, hevent⟩ := Option.ne_none_iff_exists'.mp hrelay
    rw [ServerSteps, NewConnections.step] at hs
    split at hs
    · rename_i event' hevent'
      cases hevent.symm.trans hevent'
      obtain ⟨relay, hstep, rfl⟩ := Option.map_eq_some_iff.mp hs
      obtain ⟨hlawful, hkeeps⟩ := he.lawful hevent
      refine ⟨inner ++ [event], by simp [hlength], ?_, hleads.snoc hstep⟩
      exact List.forall_mem_append.mpr ⟨hinner, List.forall_mem_singleton.mpr ⟨hkeeps, hlawful⟩⟩
    all_goals
      rename_i hnone _
      exact (hrelay hnone).elim

/-- Every worker takes the connections that fall to it, in the order in which the server accepted
them and none twice. Without further connections the threads come to rest, then each worker has all
of its connections, and no worker has two more than another. -/
theorem connections_dispatched (hn : 0 < n) (hrun : Leads ServerSteps {} es s)
    (hok : ∀ e ∈ es, e.Ok) :
    s.nextWorkerIndex < n ∧
    (∀ k : Fin n, received s k <+: share n k (es.filterMap (·.accepted))) ∧
    (∀ es' t, Leads ServerSteps s es' t → (∀ e ∈ es', e.relay ≠ none ∧ e.Ok) →
      es'.length ≤ (handOver n).work s.relay) ∧
    (ServerRests s → (∀ k : Fin n, received s k = share n k (es.filterMap (·.accepted))) ∧
      ∀ j k : Fin n, (received s j).length ≤ (received s k).length + 1) := by
  have h := dispatched_of_leads hn hrun hok
  have hshare : ∀ k : Fin n, ((handOver n).onRoute [some k] s.relay.injected).map (·.fd) =
      share n k (es.filterMap (·.accepted)) := by
    intro k
    rw [onRoute_worker, h.injected, filter_assigned]
  refine ⟨?_, fun k => ?_, fun es' t hrun' hes' => ?_, fun hrests => ?_⟩
  · rw [h.index]
    exact Nat.mod_lt _ hn
  · rw [received_eq h.inv, ← hshare]
    exact (h.inv.taken_prefix (List.nodup_singleton _) (List.mem_singleton_self _)).map _
  · obtain ⟨inner, hlength, hinner, hleads⟩ := leads_relay hrun' hes'
    have hbound := h.inv.length_add_work_le hleads hinner
    omega
  · have hall : ∀ k : Fin n, received s k = share n k (es.filterMap (·.accepted)) := by
      intro k
      rw [received_eq h.inv, ← hshare, h.inv.taken_of_quiet (h.quiet hrests)
        (List.nodup_singleton _) (List.mem_singleton_self _)]
    refine ⟨hall, fun j k => ?_⟩
    rw [hall, hall, length_share, length_share]
    split_ifs <;> omega

/-- Three connections for two workers. -/
def sampleServer : List (ServerEvent 2) :=
  [.acceptNewConn 7, .notify true, .acceptNewConn 8, .readToken 0, .notify true, .acceptNewConn (-1),
    .acceptNewConn 9, .consume 0, .readToken 1, .notify true, .consume 1, .readToken 0, .consume 0]

theorem sampleSockets_handed : ∃ s : SignalingServer 2, Leads ServerSteps {} sampleServer s ∧
    s.nextWorkerIndex < 2 ∧ received s 0 = [7, 9] ∧ received s 1 = [8] := by
  have hlast : (sampleServer.foldlM step {}).map (fun s => (received s 0, received s 1)) =
      some ([7, 9], [8]) := by decide +kernel
  obtain ⟨s, hs, hreceived⟩ := Option.map_eq_some_iff.mp hlast
  have hrun := leads_of_foldlM (R := ServerSteps) (fun _ _ _ h => h) hs
  have hall := connections_dispatched Nat.two_pos hrun (by simp [sampleServer, ServerEvent.Ok])
  exact ⟨s, hrun, hall.1, congrArg Prod.fst hreceived, congrArg Prod.snd hreceived⟩

end XrtcServer.Signaling.NewConnections
