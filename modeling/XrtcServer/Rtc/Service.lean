import Mathlib.Tactic.DeriveFintype
import XrtcServer.Core.RelayRuns
import XrtcServer.Signaling.Worker

/-!
# From the signaling workers to the RTC workers and back

A signaling worker sends a request to the RTC server, which hands it to the RTC worker of the stream.
That worker puts the offer for a PUSH or a PULL into the message, and sends it back to the signaling
worker that it names. All threads interleave, and each of them has a queue with a pipe next to it.
-/

namespace XrtcServer.Rtc
open XrtcServer.Base XrtcServer.Core XrtcServer.Signaling

/-- The threads, for `m` signaling workers and `n` RTC workers. -/
inductive Node (m n : Nat)
  | signaling (i : Fin m)
  | server
  | rtc (k : Fin n)
  deriving DecidableEq, Repr, Fintype

/-- A message on its way, with the worker that sent it. -/
structure Parcel (m : Nat) where
  origin : Fin m
  msg : RtcMsg
  /-- A ghost: the message as it was sent. -/
  request : RtcMsg
  deriving DecidableEq, Repr

/-- What the thread finds that takes a message: whether there is a certificate, and what the
`RtcStreamManager` returns. -/
structure Outcome where
  certified : Bool := true
  ret : Int := 0
  offer : Bytes := []
  deriving DecidableEq, Repr

/-- What `_process_push` and `_process_pull` send back. -/
def processOffer (ret : Int) (offer : Bytes) (msg : RtcMsg) : Option RtcMsg :=
  let msg := { msg with sdp := offer }
  let msg := if ret ≠ 0 then { msg with errNo := -1 } else msg
  if msg.worker then some msg else none

/-- `_process_push`, where `create_push_stream` returns `ret` and `offer`. -/
def processPush (ret : Int) (offer : Bytes) (msg : RtcMsg) : Option RtcMsg :=
  processOffer ret offer msg

/-- `_process_pull`, where `create_pull_stream` returns `ret` and `offer`. -/
def processPull (ret : Int) (offer : Bytes) (msg : RtcMsg) : Option RtcMsg :=
  processOffer ret offer msg

/-- What `RtcWorker::_process_rtc_msg` sends back to the signaling worker. -/
def processRtcMsg (ret : Int) (offer : Bytes) (msg : RtcMsg) : Option RtcMsg :=
  if msg.cmdno = cmdnoPush then processPush ret offer msg
  else if msg.cmdno = cmdnoPull then processPull ret offer msg
  -- `_process_stop_push`, `_process_stop_pull` and `_process_answer` send nothing.
  else none

/-- `_get_worker` -/
def getWorker (crc32 : Bytes → UInt32) (n : Nat) (streamName : Bytes) : Option (Fin n) :=
  if h : 0 < n then some ⟨(crc32 streamName).toNat % n, Nat.mod_lt _ h⟩ else none

variable {m n : Nat} (crc32 : Bytes → UInt32)

def handle : Node m n → Outcome → Parcel m → Option (Parcel m × Node m n)
  | .server, out, p =>
    if out.certified then (getWorker crc32 n p.msg.streamName).map fun k => (p, .rtc k) else none
  | .rtc _, out, p =>
    (processRtcMsg out.ret out.offer p.msg).map fun msg => ({ p with msg }, .signaling p.origin)
  | .signaling _, _, _ => none

/-- The requests that get an answer. -/
def WantsOffer (msg : RtcMsg) : Prop :=
  (msg.cmdno = cmdnoPush ∨ msg.cmdno = cmdnoPull) ∧ msg.worker = true

instance (msg : RtcMsg) : Decidable (WantsOffer msg) := instDecidableAnd

/-- The threads that a request of a signaling worker comes to. -/
def route (j : Fin m × RtcMsg) : List (Node m n) :=
  .server :: match getWorker crc32 n j.2.streamName with
    | none => []
    | some k => .rtc k :: if WantsOffer j.2 then [.signaling j.1] else []

/-- The message is the request with the answer to it. -/
def IsAnswer (request msg : RtcMsg) : Prop :=
  ∃ ret offer, processRtcMsg ret offer request = some msg

def Fits : Node m n → Parcel m → Prop
  | .signaling i, p => p.origin = i ∧ IsAnswer p.request p.msg
  | _, p => p.msg = p.request

lemma nodup_route (j : Fin m × RtcMsg) : (route (n := n) crc32 j).Nodup := by
  unfold route
  cases getWorker crc32 n j.2.streamName with
  | none => exact List.nodup_singleton _
  | some k => split_ifs <;> simp

def service (m n : Nat) : Network (Node m n) (Parcel m) Outcome (Fin m × RtcMsg) where
  handle := handle crc32
  job p := (p.origin, p.request)
  route := route crc32
  fits := Fits
  nodup := nodup_route crc32

inductive ServiceEvent (m n : Nat)
  | send (i : Fin m) (msg : RtcMsg)
  | notify (thread : Node m n) (written : Bool)
  | readToken (thread : Node m n)
  | popMsg (thread : Node m n) (out : Outcome)
  | pushMsg (thread : Node m n)
  deriving DecidableEq, Repr

namespace ServiceEvent

/-- Signaling workers send to the RTC server. -/
def relay : ServiceEvent m n → RelayEvent (Node m n) (Parcel m) Outcome
  | .send i msg => .inject (.signaling i) ⟨i, msg, msg⟩ .server
  | .notify thread written => .notify thread written
  | .readToken thread => .read thread
  | .popMsg thread out => .pop thread out
  | .pushMsg thread => .forward thread

/-- Writes to pipes succeed and there is a certificate. -/
def Ok : ServiceEvent m n → Prop
  | .notify _ written => written = true
  | .popMsg _ out => out.certified = true
  | _ => True

/-- The message that worker `i` sends. -/
def sentBy (i : Fin m) : ServiceEvent m n → Option RtcMsg
  | .send j msg => if j = i then some msg else none
  | _ => none

end ServiceEvent

variable {crc32} {p : Parcel m} {out : Outcome} {ret : Int} {offer : Bytes} {msg : RtcMsg}

lemma isSome_processRtcMsg (ret : Int) (offer : Bytes) (msg : RtcMsg) :
    (processRtcMsg ret offer msg).isSome = decide (WantsOffer msg) := by
  have hoffer : (processOffer ret offer msg).isSome = msg.worker := by
    unfold processOffer
    dsimp only
    split_ifs <;> simp_all
  unfold processRtcMsg processPush processPull WantsOffer
  split_ifs <;> simp_all

lemma route_of_getWorker {j : Fin m × RtcMsg} {k : Fin n}
    (hk : getWorker crc32 n j.2.streamName = some k) :
    route crc32 j = .server :: .rtc k :: if WantsOffer j.2 then [.signaling j.1] else [] := by
  rw [route, hk]

lemma eq_of_rtc_mem {j : Fin m × RtcMsg} {k : Fin n} (hmem : Node.rtc k ∈ route crc32 j) :
    getWorker crc32 n j.2.streamName = some k := by
  unfold route at hmem
  cases hk : getWorker crc32 n j.2.streamName with
  | none => simp [hk] at hmem
  | some k' =>
    rw [hk] at hmem
    split_ifs at hmem <;> simp_all

lemma eq_of_signaling_mem {j : Fin m × RtcMsg} {i : Fin m}
    (hmem : (Node.signaling i : Node m n) ∈ route crc32 j) :
    j.1 = i ∧ WantsOffer j.2 ∧ ∃ k : Fin n, getWorker crc32 n j.2.streamName = some k := by
  unfold route at hmem
  cases hk : getWorker crc32 n j.2.streamName with
  | none => simp [hk] at hmem
  | some k =>
    rw [hk] at hmem
    split_ifs at hmem with hwants
    · have hi : i = j.1 := by simpa using hmem
      exact ⟨hi.symm, hwants, k, rfl⟩
    · simp at hmem

/-- Every thread hands messages on along their routes. -/
lemma handle_lawful (thread : Node m n) (hout : out.certified = true)
    (hsent : (service crc32 m n).Sent p thread) :
    (handle crc32 thread out p).map Prod.snd = after (route crc32 (p.origin, p.request)) thread ∧
      ∀ q ∈ handle crc32 thread out p,
        (q.1.origin, q.1.request) = (p.origin, p.request) ∧ Fits q.2 q.1 := by
  obtain ⟨hmem, hfits⟩ := hsent
  change thread ∈ route crc32 (p.origin, p.request) at hmem
  change Fits thread p at hfits
  cases thread with
  | server =>
    have hmsg : p.msg = p.request := hfits
    rw [handle, if_pos hout, hmsg]
    cases hk : getWorker crc32 n p.request.streamName with
    | none =>
      have hroute : route crc32 (p.origin, p.request) = [(.server : Node m n)] := by
        rw [route, hk]
      rw [hroute]
      exact ⟨rfl, fun q hq => absurd hq (Option.not_mem_none q)⟩
    | some k =>
      rw [route_of_getWorker hk]
      refine ⟨by simp [after], fun q hq => ?_⟩
      obtain rfl := Option.some.inj hq
      exact ⟨rfl, hfits⟩
  | rtc k =>
    have hmsg : p.msg = p.request := hfits
    have hsome := isSome_processRtcMsg out.ret out.offer p.request
    rw [handle, hmsg, route_of_getWorker (eq_of_rtc_mem hmem)]
    cases hanswer : processRtcMsg out.ret out.offer p.request with
    | none =>
      rw [hanswer] at hsome
      have hwants : ¬ WantsOffer p.request := of_decide_eq_false hsome.symm
      rw [if_neg hwants]
      exact ⟨by simp [after], fun q hq => absurd hq (Option.not_mem_none q)⟩
    | some msg =>
      rw [hanswer] at hsome
      have hwants : WantsOffer p.request := of_decide_eq_true hsome.symm
      rw [if_pos hwants]
      refine ⟨by simp [after], fun q hq => ?_⟩
      obtain rfl := Option.some.inj hq
      exact ⟨rfl, rfl, out.ret, out.offer, hanswer⟩
  | signaling i =>
    obtain ⟨rfl, hwants, k, hk⟩ := eq_of_signaling_mem hmem
    rw [route_of_getWorker hk, if_pos hwants]
    exact ⟨by simp [handle, after], fun q hq => absurd hq (Option.not_mem_none q)⟩

lemma ServiceEvent.Ok.lawful {e : ServiceEvent m n} (h : e.Ok) :
    (service crc32 m n).Lawful e.relay := by
  cases e with
  | send i msg => exact ⟨rfl, rfl⟩
  | notify thread written => exact h
  | readToken thread => trivial
  | popMsg thread out => exact fun p hp => handle_lawful thread h hp
  | pushMsg thread => trivial

/-! ## Runs -/

variable {s t : Relay (Node m n) (Parcel m)} {es : List (ServiceEvent m n)}

variable (crc32) in
/-- The interleaving of all threads. -/
def ServiceSteps (s : Relay (Node m n) (Parcel m)) (e : ServiceEvent m n)
    (t : Relay (Node m n) (Parcel m)) : Prop := (service crc32 m n).step s e.relay = some t

lemma leads_relay (hrun : Leads (ServiceSteps crc32) s es t) :
    Leads (service crc32 m n).Step s (es.map ServiceEvent.relay) t := by
  induction hrun with
  | nil => exact .nil
  | snoc _ hstep ih =>
    rw [List.map_append]
    exact ih.snoc hstep

lemma inv_service (hrun : Leads (ServiceSteps crc32) {} es s) (hok : ∀ e ∈ es, e.Ok) :
    (service crc32 m n).Inv s := by
  refine Network.inv_of_leads (leads_relay hrun) fun e he => ?_
  obtain ⟨e', he', rfl⟩ := List.mem_map.mp he
  exact (hok e' he').lawful

/-- The requests of worker `i` in the order in which it sent them. -/
def requestsOf (i : Fin m) (l : List (Parcel m)) : List RtcMsg :=
  (l.filter (·.origin = i)).map (·.request)

lemma requestsOf_append (i : Fin m) (l l' : List (Parcel m)) :
    requestsOf i (l ++ l') = requestsOf i l ++ requestsOf i l' := by
  rw [requestsOf, List.filter_append, List.map_append]
  rfl

lemma inner_relay {e : ServiceEvent m n} (he : ∀ i, e.sentBy i = none) : e.relay.Inner := by
  cases e with
  | send i msg => simp [ServiceEvent.sentBy] at he
  | _ => trivial

lemma injected_of_step {e : ServiceEvent m n} (hs : ServiceSteps crc32 s e t) (i : Fin m) :
    requestsOf i t.injected = requestsOf i s.injected ++ (e.sentBy i).toList := by
  by_cases he : ∀ j, e.sentBy j = none
  · rw [Network.injected_of_inner (inner_relay he) hs, he]
    exact (List.append_nil _).symm
  · cases e with
    | send j msg =>
      rw [ServiceSteps, ServiceEvent.relay, Network.step] at hs
      split at hs
      · cases hs
        rw [requestsOf_append, ServiceEvent.sentBy]
        by_cases hj : j = i <;> simp [requestsOf, hj]
      · cases hs
    | _ => exact (he fun _ => rfl).elim

lemma requestsOf_injected (hrun : Leads (ServiceSteps crc32) {} es s) (i : Fin m) :
    requestsOf i s.injected = es.filterMap (·.sentBy i) := by
  refine hrun.invariant (J := fun es s => requestsOf i s.injected = es.filterMap (·.sentBy i)) rfl ?_
  intro es t e u ih hs
  rw [injected_of_step hs, ih, List.filterMap_append]
  cases hsent : e.sentBy i <;> simp [hsent]

def forStream (streamName : Bytes) (l : List RtcMsg) : List RtcMsg :=
  l.filter (·.streamName = streamName)

lemma route_eq_iff {j : Fin m × RtcMsg} {i : Fin m} {k : Fin n}
    (hk : getWorker crc32 n j.2.streamName = some k) :
    route crc32 j = [.server, .rtc k, .signaling i] ↔ j.1 = i ∧ WantsOffer j.2 := by
  rw [route_of_getWorker hk]
  split_ifs with hwants <;> simp [hwants]

/-- The messages of a stream that worker `i` sent and that get an answer are those on one route. -/
lemma forStream_onRoute {streamName : Bytes} {k : Fin n} (i : Fin m)
    (hk : getWorker crc32 n streamName = some k) (l : List (Parcel m)) :
    (((service crc32 m n).onRoute [.server, .rtc k, .signaling i] l).filter
      (·.2.streamName = streamName)).map Prod.snd =
        forStream streamName ((requestsOf i l).filter WantsOffer) := by
  induction l with
  | nil => rfl
  | cons p l ih =>
    have hp : ∀ l', (service crc32 m n).onRoute [.server, .rtc k, .signaling i] (p :: l') =
        (service crc32 m n).onRoute [.server, .rtc k, .signaling i] [p] ++
          (service crc32 m n).onRoute [.server, .rtc k, .signaling i] l' :=
      fun l' => Network.onRoute_append [p] l'
    have hone : (service crc32 m n).onRoute [.server, .rtc k, .signaling i] [p] =
        if route crc32 (p.origin, p.request) = [.server, .rtc k, .signaling i] then
          [(p.origin, p.request)] else [] := Network.onRoute_singleton
    rw [hp, List.filter_append, List.map_append, ih, hone, ← List.singleton_append (l := l),
      requestsOf_append, List.filter_append, forStream, forStream, List.filter_append]
    congr 1
    by_cases hname : p.request.streamName = streamName
    · have hiff : route crc32 (p.origin, p.request) = [.server, .rtc k, .signaling i] ↔ _ :=
        route_eq_iff (by rw [← hname] at hk; exact hk)
      rw [if_congr hiff rfl rfl]
      by_cases horigin : p.origin = i <;> by_cases hwants : WantsOffer p.request <;>
        simp [requestsOf, horigin, hwants, hname]
    · by_cases horigin : p.origin = i <;> by_cases hwants : WantsOffer p.request <;>
        split_ifs <;> simp [requestsOf, horigin, hwants, hname]

/-- The requests whose answers worker `i` has taken. -/
def answered (s : Relay (Node m n) (Parcel m)) (i : Fin m) : List RtcMsg :=
  (s.box (.signaling i)).taken.map (·.request)

section inv
variable (h : (service crc32 m n).Inv s) {i : Fin m}
include h

lemma taken_spec (hp : p ∈ (s.box (.signaling i)).taken) :
    p.origin = i ∧ WantsOffer p.request ∧ IsAnswer p.request p.msg := by
  obtain ⟨hmem, horigin, hanswer⟩ := h.sent (.signaling i) p (List.mem_append_left _ hp)
  obtain ⟨-, hwants, -⟩ := eq_of_signaling_mem hmem
  exact ⟨horigin, hwants, hanswer⟩

lemma answered_eq (i : Fin m) :
    answered s i = (requestsOf i (s.box (.signaling i)).taken).filter WantsOffer := by
  have horigin : (s.box (.signaling i)).taken.filter (·.origin = i) =
      (s.box (.signaling i)).taken :=
    List.filter_eq_self.mpr fun p hp => by simpa using (taken_spec h hp).1
  rw [requestsOf, horigin, answered]
  refine (List.filter_eq_self.mpr fun msg hmsg => ?_).symm
  obtain ⟨p, hp, rfl⟩ := List.mem_map.mp hmsg
  simpa using (taken_spec h hp).2.1

end inv

/-- No thread can go on before the next request. -/
def ServiceRests (crc32 : Bytes → UInt32) (s : Relay (Node m n) (Parcel m)) : Prop :=
  ∀ e t, (∀ i, e.sentBy i = none) → e.Ok → ¬ ServiceSteps crc32 s e t

/-- Where no thread can go on, nothing is left to do. -/
lemma quiet_of_rests (h : (service crc32 m n).Inv s) (hrests : ServiceRests crc32 s) :
    s.Quiet := by
  refine h.quiet (C := fun e => ∃ e' : ServiceEvent m n, e'.relay = e ∧
    (∀ i, e'.sentBy i = none) ∧ e'.Ok) (fun thread => ?_) ?_
  · exact ⟨⟨.notify thread true, rfl, fun _ => rfl, rfl⟩,
      ⟨.readToken thread, rfl, fun _ => rfl, trivial⟩,
      ⟨{}, .popMsg thread {}, rfl, fun _ => rfl, rfl⟩,
      ⟨.pushMsg thread, rfl, fun _ => rfl, trivial⟩⟩
  · rintro _ t ⟨e, rfl, hsent, hok⟩
    exact hrests e t hsent hok

/-- In every interleaving a signaling worker takes back its own PUSH and PULL requests only, each
with an answer, and those of a stream in the order in which it sent them and none twice. Without
further requests the threads come to rest, and then all of them have been answered. -/
theorem requests_answered (hn : 0 < n) (hrun : Leads (ServiceSteps (m := m) (n := n) crc32) {} es s)
    (hok : ∀ e ∈ es, e.Ok) :
    (∀ i, ∀ p ∈ (s.box (.signaling i)).taken,
      p.origin = i ∧ WantsOffer p.request ∧ IsAnswer p.request p.msg) ∧
    (∀ i streamName, forStream streamName (answered s i) <+:
      forStream streamName ((es.filterMap (·.sentBy i)).filter WantsOffer)) ∧
    (∀ es' t, Leads (ServiceSteps crc32) s es' t →
      (∀ e ∈ es', (∀ i, e.sentBy i = none) ∧ e.Ok) → es'.length ≤ (service crc32 m n).work s) ∧
    (ServiceRests crc32 s → ∀ i streamName, forStream streamName (answered s i) =
      forStream streamName ((es.filterMap (·.sentBy i)).filter WantsOffer)) := by
  have h := inv_service hrun hok
  have hroute : ∀ (i : Fin m) (k : Fin n),
      [Node.server, .rtc k, .signaling i].Nodup := fun i k => by simp
  have hworker : ∀ streamName, ∃ k, getWorker crc32 n streamName = some k :=
    fun streamName => ⟨_, dif_pos hn⟩
  refine ⟨fun i p hp => taken_spec h hp, fun i streamName => ?_, fun es' t hrun' hes' => ?_,
    fun hrests i streamName => ?_⟩
  · obtain ⟨k, hk⟩ := hworker streamName
    have hfirst := h.taken_prefix (n := .signaling i) (hroute i k) (by simp)
    rw [answered_eq h, ← forStream_onRoute i hk, ← requestsOf_injected hrun,
      ← forStream_onRoute i hk]
    exact (hfirst.filter _).map _
  · have hbound := h.length_add_work_le (leads_relay hrun') fun e he => by
      obtain ⟨e', he', rfl⟩ := List.mem_map.mp he
      exact ⟨inner_relay (hes' e' he').1, (hes' e' he').2.lawful⟩
    rw [List.length_map] at hbound
    omega
  · obtain ⟨k, hk⟩ := hworker streamName
    have htaken := h.taken_of_quiet (n := .signaling i) (quiet_of_rests h hrests) (hroute i k)
      (by simp)
    rw [answered_eq h, ← forStream_onRoute i hk, ← requestsOf_injected hrun,
      ← forStream_onRoute i hk, htaken]

/-- A PUSH of the only signaling worker, and the way of the offer back to it. -/
def sampleService : List (ServiceEvent 1 1) :=
  [.send 0 { cmdno := 1, worker := true }, .notify (.signaling 0) true, .readToken .server,
    .popMsg .server {}, .pushMsg .server, .notify .server true, .readToken (.rtc 0),
    .popMsg (.rtc 0) { offer := [118] }, .pushMsg (.rtc 0), .notify (.rtc 0) true,
    .readToken (.signaling 0), .popMsg (.signaling 0) {}]

theorem sampleService_answered : ∃ s : Relay (Node 1 1) (Parcel 1),
    Leads (ServiceSteps fun _ => 7) {} sampleService s ∧
      (∀ p ∈ (s.box (.signaling 0)).taken, IsAnswer p.request p.msg) ∧
      forStream [] (answered s 0) = [{ cmdno := 1, worker := true }] := by
  have hlast : (sampleService.foldlM (fun s e => (service (fun _ => 7) 1 1).step s e.relay)
      {}).map (fun s => forStream [] (answered s 0)) = some [{ cmdno := 1, worker := true }] := rfl
  obtain ⟨s, hs, hanswered⟩ := Option.map_eq_some_iff.mp hlast
  have hrun := leads_of_foldlM (R := ServiceSteps fun _ => 7) (fun _ _ _ h => h) hs
  have hall := requests_answered Nat.one_pos hrun (by simp [sampleService, ServiceEvent.Ok])
  exact ⟨s, hrun, fun p hp => (hall.1 0 p hp).2.2, hanswered⟩

end XrtcServer.Rtc
