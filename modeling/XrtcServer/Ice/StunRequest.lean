import XrtcServer.Core.Run
import XrtcServer.Ice.Channel
import XrtcServer.Ice.Stun
import Mathlib.Data.List.Nodup

/-!
# Requests and their manager

A `StunRequestManager` is a member of its `IceConnection` and owns the requests that were sent and
not answered. Its response handlers run while it holds a request, and one of them deletes the
connection. Every use of a request or of the manager is checked here against what was deleted.
-/

namespace XrtcServer.Ice
open XrtcServer.Base XrtcServer.Core

/-- The identity of a `StunRequest` object. -/
abbrev RequestPtr := Nat

structure StunRequest where
  id : TransactionId
  type : Nat
  deriving DecidableEq, Repr

/-- A use of an object after its deletion. -/
inductive Fault
  | requestDeleted (p : RequestPtr)
  | managerDeleted
  deriving DecidableEq, Repr

def isStunRequestType (reqType : Nat) : Bool := reqType &&& kStunTypeMask = 0

def getStunSuccessResponse (reqType : Nat) : Int :=
  if isStunRequestType reqType then ((reqType ||| 0x100 : Nat) : Int) else -1

def getStunErrorResponse (reqType : Nat) : Int :=
  if isStunRequestType reqType then ((reqType ||| 0x110 : Nat) : Int) else -1

/-- A manager with all requests that it was given, how often each was deleted, and whether the
connection with the manager is still there. -/
structure StunRequestManager where
  requests : List (TransactionId × RequestPtr) := []
  objects : RequestPtr → Option StunRequest := fun _ => none
  deletions : RequestPtr → Nat := fun _ => 0
  alive : Bool := true

namespace StunRequestManager

/-- An access to a member of the request at `p`. -/
def useRequest (s : StunRequestManager) (p : RequestPtr) : Except Fault StunRequest :=
  match s.objects p with
  | some request => if s.deletions p = 0 then .ok request else .error (.requestDeleted p)
  | none => .error (.requestDeleted p)

/-- An access to a member of the manager. -/
def useManager (s : StunRequestManager) : Except Fault Unit :=
  if s.alive then .ok () else .error .managerDeleted

/-- `send`; the map forgets what it had under the same transaction. -/
def send (s : StunRequestManager) (p : RequestPtr) (id : TransactionId) (type : Nat) :
    StunRequestManager :=
  { s with
    objects := Function.update s.objects p (some { id, type })
    requests := s.requests.filter (·.1 ≠ id) ++ [(id, p)] }

def remove (s : StunRequestManager) (p : RequestPtr) : Except Fault StunRequestManager := do
  s.useManager
  let request ← s.useRequest p
  return { s with requests := s.requests.filter (·.1 ≠ request.id) }

/-- `delete request`, with `~StunRequest`. -/
def deleteRequest (s : StunRequestManager) (p : RequestPtr) :
    Except Fault StunRequestManager := do
  let _ ← s.useRequest p
  let s ← s.remove p
  return { s with deletions := Function.update s.deletions p (s.deletions p + 1) }

/-- The loop of `~StunRequestManager`, which takes at most `fuel` turns. -/
def deleteRequests : Nat → StunRequestManager → Except Fault StunRequestManager
  | 0, s => return s
  | fuel + 1, s =>
    match s.requests with
    | [] => return s
    | (_, p) :: requests => do
      let s ← { s with requests }.deleteRequest p
      deleteRequests fuel s

/-- `~StunRequestManager`, when the connection goes. -/
def destroy (s : StunRequestManager) : Except Fault StunRequestManager := do
  let s ← deleteRequests s.requests.length s
  return { s with alive := false }

/-- `on_connection_request_response`, which asks the request for its age and deletes nothing. -/
def onRequestResponse (s : StunRequestManager) (p : RequestPtr) :
    Except Fault StunRequestManager := do
  let _ ← s.useRequest p
  return s

/-- `on_connection_request_error_response`; `fail_and_destroy` deletes the connection. -/
def onRequestErrorResponse (s : StunRequestManager) (p : RequestPtr) (errorCode : Int) :
    Except Fault StunRequestManager := do
  let _ ← s.useRequest p
  if IceTransportChannel.retryable errorCode then return s else s.destroy

/-- `check_response`, with what it returns. -/
def checkResponse (s : StunRequestManager) (msg : StunMessage) :
    Except Fault (StunRequestManager × Bool) := do
  s.useManager
  match s.requests.find? (·.1 = msg.transactionId) with
  | none => return (s, false)
  | some (_, p) =>
    let request ← s.useRequest p
    if (msg.type : Int) = getStunSuccessResponse request.type then
      let s ← s.onRequestResponse p
      let s ← s.deleteRequest p
      return (s, true)
    else if (msg.type : Int) = getStunErrorResponse request.type then
      let s ← s.onRequestErrorResponse p msg.getErrorCodeValue
      let s ← s.deleteRequest p
      return (s, true)
    else
      let s ← s.deleteRequest p
      return (s, false)

end StunRequestManager

/-- What can happen to a manager. -/
inductive RequestEvent
  | send (p : RequestPtr) (id : TransactionId) (type : Nat)
  | response (msg : StunMessage)
  | destroy
  deriving DecidableEq, Repr

/-- One event. `none` where it cannot happen: a request is a new object, and nobody calls a manager
whose connection is gone. -/
def requestApply (s : StunRequestManager) :
    RequestEvent → Option (Except Fault StunRequestManager)
  | .send p id type =>
    if s.alive = true ∧ (s.objects p).isNone = true then some (.ok (s.send p id type)) else none
  | .response msg => if s.alive then some ((s.checkResponse msg).map Prod.fst) else none
  | .destroy => if s.alive then some s.destroy else none

/-- The transition relation of a manager, which ends in a fault. -/
def RequestStep (s : Except Fault StunRequestManager) (e : RequestEvent)
    (t : Except Fault StunRequestManager) : Prop :=
  ∃ m, s = .ok m ∧ requestApply m e = some t

/-! ## Ownership -/

variable {s s' : StunRequestManager} {p q : RequestPtr} {id : TransactionId} {msg : StunMessage}
  {request : StunRequest}

/-- The manager holds the request and will delete it. -/
def StunRequestManager.Holds (s : StunRequestManager) (p : RequestPtr) : Prop :=
  s.alive = true ∧ ∃ id, (id, p) ∈ s.requests

/-- Nothing was used after its deletion, and each request that was sent is held or was deleted
once. -/
def Owned : Except Fault StunRequestManager → Prop
  | .error _ => False
  | .ok s => ∀ p, (s.objects p).isSome = true →
    s.deletions p = 0 ∧ s.Holds p ∨ s.deletions p = 1 ∧ ¬ s.Holds p

/-- The response is an error response to a request that is held, with a code after which the
connection is not kept. -/
def StunRequestManager.Fatal (s : StunRequestManager) (msg : StunMessage) : Prop :=
  ∃ p request, (msg.transactionId, p) ∈ s.requests ∧ s.objects p = some request ∧
    (msg.type : Int) = getStunErrorResponse request.type ∧
    IceTransportChannel.retryable msg.getErrorCodeValue = false

/-- The condition on an event: no request gets the transaction of one that is held, and no response
makes the connection destroy itself. -/
def Unentangled (s : Except Fault StunRequestManager) : RequestEvent → Prop
  | .send _ id _ => ∀ m, s = .ok m → ∀ p, (id, p) ∉ m.requests
  | .response msg => ∀ m, s = .ok m → ¬ m.Fatal msg
  | .destroy => True

namespace StunRequestManager

/-- What the manager keeps between events. -/
structure Inv (s : StunRequestManager) : Prop where
  keys : (s.requests.map Prod.fst).Nodup
  filed : ∀ id p, (id, p) ∈ s.requests →
    ∃ request, s.objects p = some request ∧ request.id = id ∧ s.deletions p = 0
  owned : Owned (.ok s)
  fresh : ∀ p, s.objects p = none → s.deletions p = 0

/-- The manager after the deletion of the request at `p`, of the transaction `id`. -/
def released (s : StunRequestManager) (id : TransactionId) (p : RequestPtr) : StunRequestManager :=
  { s with
    requests := s.requests.filter (·.1 ≠ id)
    deletions := Function.update s.deletions p (s.deletions p + 1) }

lemma mem_released {j : TransactionId} :
    (j, q) ∈ (s.released id p).requests ↔ (j, q) ∈ s.requests ∧ j ≠ id := by
  simp [released]

lemma deletions_released (h : q ≠ p) : (s.released id p).deletions q = s.deletions q :=
  Function.update_of_ne h _ _

/-- A request is filed under its own transaction only, and a transaction has one request. -/
lemma Inv.filed_unique (h : s.Inv) {j : TransactionId} (hp : (id, p) ∈ s.requests)
    (hq : (j, q) ∈ s.requests) : j = id ↔ q = p := by
  constructor
  · rintro rfl
    exact congrArg Prod.snd (List.inj_on_of_nodup_map h.keys hq hp rfl)
  · rintro rfl
    obtain ⟨r, hr, rfl, -⟩ := h.filed _ _ hp
    obtain ⟨r', hr', rfl, -⟩ := h.filed _ _ hq
    rw [Option.some.inj (hr.symm.trans hr')]

lemma useRequest_eq (hobj : s.objects p = some request) (hdel : s.deletions p = 0) :
    s.useRequest p = .ok request := by
  rw [useRequest, hobj]
  exact if_pos hdel

lemma deleteRequest_eq (halive : s.alive = true) (hobj : s.objects p = some request)
    (hdel : s.deletions p = 0) : s.deleteRequest p = .ok (s.released request.id p) := by
  have huse := useRequest_eq hobj hdel
  have hmanager : s.useManager = .ok () := if_pos halive
  simp only [deleteRequest, remove, huse, hmanager, bind, Except.bind, pure, Except.pure]
  rfl

lemma Inv.released (h : s.Inv) (hp : (id, p) ∈ s.requests) :
    (s.released id p).Inv := by
  have hdel : s.deletions p = 0 := by
    obtain ⟨request, -, -, hdel⟩ := h.filed id p hp
    exact hdel
  refine ⟨(List.filter_sublist.map Prod.fst).nodup h.keys, ?_, ?_, ?_⟩
  · intro j q hq
    obtain ⟨hq, hj⟩ := mem_released.mp hq
    obtain ⟨request, hobj, hid, hdelq⟩ := h.filed j q hq
    refine ⟨request, hobj, hid, ?_⟩
    have hne : q ≠ p := fun heq => hj ((h.filed_unique hp hq).mpr heq)
    rw [deletions_released hne]
    exact hdelq
  · intro q hq
    by_cases heq : q = p
    · subst heq
      right
      refine ⟨by simp [StunRequestManager.released, hdel], ?_⟩
      rintro ⟨-, j, hj⟩
      obtain ⟨hj, hne⟩ := mem_released.mp hj
      exact hne ((h.filed_unique hp hj).mpr rfl)
    · have hholds : (s.released id p).Holds q ↔ s.Holds q := by
        refine and_congr_right fun _ => exists_congr fun j => ?_
        rw [mem_released, and_iff_left_iff_imp]
        exact fun hj hid => heq ((h.filed_unique hp hj).mp hid)
      rw [hholds, deletions_released heq]
      exact h.owned q hq
  · intro q hq
    have hne : q ≠ p := by
      rintro rfl
      obtain ⟨request, hobj, -⟩ := h.filed id q hp
      cases hobj.symm.trans hq
    rw [deletions_released hne]
    exact h.fresh q hq

lemma Inv.deleteRequests (h : s.Inv) (halive : s.alive = true) {fuel : Nat}
    (hfuel : s.requests.length ≤ fuel) :
    ∃ s', deleteRequests fuel s = .ok s' ∧ s'.Inv ∧ s'.requests = [] := by
  induction fuel generalizing s with
  | zero => exact ⟨s, rfl, h, List.eq_nil_of_length_eq_zero (by omega)⟩
  | succ fuel ih =>
    rw [StunRequestManager.deleteRequests]
    cases hreq : s.requests with
    | nil => exact ⟨s, rfl, h, hreq⟩
    | cons entry requests =>
      obtain ⟨id, p⟩ := entry
      have hp : (id, p) ∈ s.requests := by simp [hreq]
      obtain ⟨request, hobj, rfl, hdel⟩ := h.filed id p hp
      have hdelete : { s with requests }.deleteRequest p = .ok (s.released request.id p) := by
        rw [deleteRequest_eq (s := { s with requests }) halive hobj hdel]
        simp only [StunRequestManager.released, hreq]
        simp
      simp only [hdelete, bind, Except.bind]
      refine ih (h.released hp) halive ?_
      have hfilter : (s.released request.id p).requests.length ≤ requests.length := by
        simp only [StunRequestManager.released, hreq]
        simp only [ne_eq, not_true, decide_false, Bool.false_eq_true, not_false_eq_true,
          List.filter_cons_of_neg]
        exact List.length_filter_le _ _
      rw [hreq, List.length_cons] at hfuel
      omega

lemma Inv.destroy (h : s.Inv) (halive : s.alive = true) :
    ∃ s', s.destroy = .ok s' ∧ s'.Inv ∧ s'.alive = false := by
  obtain ⟨s', hs', hinv, hnil⟩ := h.deleteRequests halive (Nat.le_refl _)
  refine ⟨{ s' with alive := false }, ?_, ⟨hinv.keys, hinv.filed, ?_, hinv.fresh⟩, rfl⟩
  · simp only [StunRequestManager.destroy, hs', bind, Except.bind, pure, Except.pure]
  · intro p hp
    have hnot : ¬ s'.Holds p := by
      rintro ⟨-, id, hid⟩
      rw [hnil] at hid
      cases hid
    rcases hinv.owned p hp with ⟨-, hholds⟩ | ⟨hdel, -⟩
    · exact absurd hholds hnot
    · exact Or.inr ⟨hdel, fun hholds => by cases hholds.1⟩

lemma Inv.send (h : s.Inv) (halive : s.alive = true) (hp : s.objects p = none)
    (hid : ∀ q, (id, q) ∉ s.requests) (type : Nat) : (s.send p id type).Inv := by
  have hsame : s.requests.filter (·.1 ≠ id) = s.requests := by
    refine List.filter_eq_self.mpr fun entry hentry => decide_eq_true ?_
    rintro rfl
    exact hid _ hentry
  have hne : ∀ {j q}, (j, q) ∈ s.requests → q ≠ p := by
    rintro j q hq rfl
    obtain ⟨request, hobj, -⟩ := h.filed j q hq
    cases hobj.symm.trans hp
  have hrequests : (s.send p id type).requests = s.requests ++ [(id, p)] :=
    congrArg (· ++ [(id, p)]) hsame
  have hobjects : (s.send p id type).objects p = some { id, type } := Function.update_self ..
  have hmem : ∀ {j q}, (j, q) ∈ (s.send p id type).requests ↔
      (j, q) ∈ s.requests ∨ j = id ∧ q = p := by
    intro j q
    rw [hrequests, List.mem_append, List.mem_singleton, Prod.mk.injEq]
  refine ⟨?_, ?_, ?_, ?_⟩
  · rw [hrequests, List.map_append, List.nodup_append]
    refine ⟨h.keys, List.nodup_singleton _, ?_⟩
    rintro j hj k hk rfl
    obtain ⟨⟨j, q⟩, hq, rfl⟩ := List.mem_map.mp hj
    obtain rfl := List.mem_singleton.mp hk
    exact hid q hq
  · intro j q hq
    rcases hmem.mp hq with hq | ⟨rfl, rfl⟩
    · obtain ⟨request, hobj, hrest⟩ := h.filed j q hq
      exact ⟨request, (Function.update_of_ne (hne hq) _ _).trans hobj, hrest⟩
    · exact ⟨_, hobjects, rfl, h.fresh q hp⟩
  · intro q hq
    by_cases heq : q = p
    · subst heq
      exact Or.inl ⟨h.fresh q hp, halive, id, hmem.mpr (Or.inr ⟨rfl, rfl⟩)⟩
    · have hobj : (s.send p id type).objects q = s.objects q := Function.update_of_ne heq _ _
      have hholds : (s.send p id type).Holds q ↔ s.Holds q := by
        refine and_congr_right fun _ => exists_congr fun j => ?_
        rw [hmem]
        exact or_iff_left fun hboth => heq hboth.2
      rw [hholds]
      exact h.owned q (hobj ▸ hq)
  · intro q hq
    by_cases heq : q = p
    · subst heq
      cases hobjects.symm.trans hq
    · exact h.fresh q ((Function.update_of_ne heq _ _).symm.trans hq)

lemma getStunErrorResponse_ne {reqType type : Nat}
    (h : (type : Int) = getStunErrorResponse reqType) :
    (type : Int) ≠ getStunSuccessResponse reqType := by
  unfold getStunErrorResponse at h
  unfold getStunSuccessResponse
  by_cases hreq : isStunRequestType reqType = true
  · rw [if_pos hreq] at h
    rw [if_pos hreq, h]
    intro heq
    have hbit := congrArg (Nat.testBit · 4) (Int.ofNat.inj heq)
    have hzero := congrArg (Nat.testBit · 4) (of_decide_eq_true hreq)
    simp only [Nat.testBit_or, Nat.testBit_and, kStunTypeMask, Nat.zero_testBit] at hbit hzero
    simp_all [Nat.testBit]
  · rw [if_neg hreq] at h
    omega

lemma Inv.useRequest_of_dead (h : s.Inv) (halive : s.alive = false) (p : RequestPtr) :
    s.useRequest p = .error (.requestDeleted p) := by
  unfold useRequest
  cases hobj : s.objects p with
  | none => rfl
  | some request =>
    rcases h.owned p (by rw [hobj, Option.isSome_some]) with ⟨-, hholds⟩ | ⟨hdel, -⟩
    · cases halive.symm.trans hholds.1
    · exact if_neg (by omega)

/-- A response is handled without a fault exactly if it is not fatal. -/
lemma Inv.checkResponse (h : s.Inv) (halive : s.alive = true) (msg : StunMessage) :
    (¬ s.Fatal msg ∧ ∃ s' ok, s.checkResponse msg = .ok (s', ok) ∧ s'.Inv) ∨
      s.Fatal msg ∧ ∃ fault, s.checkResponse msg = .error fault := by
  have hmanager : s.useManager = .ok () := if_pos halive
  unfold StunRequestManager.checkResponse
  cases hfind : s.requests.find? (·.1 = msg.transactionId) with
  | none =>
    have hnone := List.find?_eq_none.mp hfind
    refine Or.inl ⟨?_, s, false, by rw [hmanager]; rfl, h⟩
    rintro ⟨p, request, hp, -⟩
    exact hnone _ hp (decide_eq_true rfl)
  | some entry =>
    obtain ⟨id, p⟩ := entry
    have hp := List.mem_of_find?_eq_some hfind
    obtain rfl : id = msg.transactionId := by simpa using List.find?_some hfind
    obtain ⟨request, hobj, hid, hdel⟩ := h.filed _ p hp
    have huse := useRequest_eq hobj hdel
    have hdelete := deleteRequest_eq halive hobj hdel
    have hinv := h.released hp
    have hfatal : s.Fatal msg ↔ (msg.type : Int) = getStunErrorResponse request.type ∧
        IceTransportChannel.retryable msg.getErrorCodeValue = false := by
      constructor
      · rintro ⟨q, request', hq, hobj', htype, hcode⟩
        obtain rfl := (h.filed_unique hp hq).mp rfl
        rw [Option.some.inj (hobj.symm.trans hobj')]
        exact ⟨htype, hcode⟩
      · rintro ⟨htype, hcode⟩
        exact ⟨p, request, hp, hobj, htype, hcode⟩
    rw [hid] at hdelete
    simp only [hmanager, huse, bind, Except.bind]
    by_cases hsuccess : (msg.type : Int) = getStunSuccessResponse request.type
    · left
      refine ⟨fun hf => getStunErrorResponse_ne (hfatal.mp hf).1 hsuccess, _, true, ?_, hinv⟩
      rw [if_pos hsuccess]
      simp only [onRequestResponse, huse, hdelete, bind, Except.bind, pure, Except.pure]
    · rw [if_neg hsuccess]
      by_cases herror : (msg.type : Int) = getStunErrorResponse request.type
      · rw [if_pos herror]
        unfold onRequestErrorResponse
        simp only [huse, bind, Except.bind]
        cases hcode : IceTransportChannel.retryable msg.getErrorCodeValue with
        | true =>
          refine Or.inl ⟨fun hf => ?_, _, true, by simp [hdelete, pure, Except.pure], hinv⟩
          rw [(hfatal.mp hf).2] at hcode
          cases hcode
        | false =>
          obtain ⟨s', hs', hinv', hdead⟩ := h.destroy halive
          refine Or.inr ⟨hfatal.mpr ⟨herror, hcode⟩, .requestDeleted p, ?_⟩
          have hgone := hinv'.useRequest_of_dead hdead p
          simp [hs', deleteRequest, hgone, bind, Except.bind]
      · rw [if_neg herror]
        refine Or.inl ⟨fun hf => herror (hfatal.mp hf).1, _, false, ?_, hinv⟩
        simp only [hdelete, pure, Except.pure]

end StunRequestManager

/-! ## Runs -/

open StunRequestManager

/-- The states of a run in which everything is in order. -/
def InOrder (s : Except Fault StunRequestManager) : Prop := ∃ m, s = .ok m ∧ m.Inv

lemma Owned.of_inOrder {s : Except Fault StunRequestManager} (h : InOrder s) : Owned s := by
  obtain ⟨m, rfl, hinv⟩ := h
  exact hinv.owned

lemma InOrder.step {s t : Except Fault StunRequestManager} {e : RequestEvent} (h : InOrder s)
    (he : Unentangled s e) (hstep : RequestStep s e t) : InOrder t := by
  obtain ⟨m, rfl, hinv⟩ := h
  obtain ⟨_, ⟨⟩, happly⟩ := hstep
  cases e with
  | send p id type =>
    obtain ⟨⟨halive, hp⟩, ht⟩ := Option.ite_none_right_eq_some.mp happly
    cases ht
    exact ⟨_, rfl, hinv.send halive (Option.isNone_iff_eq_none.mp hp) (he m rfl) type⟩
  | response msg =>
    obtain ⟨halive, ht⟩ := Option.ite_none_right_eq_some.mp happly
    rcases hinv.checkResponse halive msg with ⟨-, s', ok, hs', hinv'⟩ | ⟨hfatal, -⟩
    · rw [hs'] at ht
      cases ht
      exact ⟨s', rfl, hinv'⟩
    · exact absurd hfatal (he m rfl)
  | destroy =>
    obtain ⟨halive, ht⟩ := Option.ite_none_right_eq_some.mp happly
    obtain ⟨s', hs', hinv', -⟩ := hinv.destroy halive
    rw [hs'] at ht
    cases ht
    exact ⟨s', rfl, hinv'⟩

lemma unentangled_of_owned {s t : Except Fault StunRequestManager} {e : RequestEvent}
    (h : InOrder s) (hstep : RequestStep s e t) (ht : Owned t) : Unentangled s e := by
  obtain ⟨m, rfl, hinv⟩ := h
  obtain ⟨_, ⟨⟩, happly⟩ := hstep
  cases e with
  | send p id type =>
    rintro _ ⟨⟩ q hq
    obtain ⟨⟨halive, hp⟩, hsent⟩ := Option.ite_none_right_eq_some.mp happly
    cases hsent
    obtain ⟨request, hobj, -, hdel⟩ := hinv.filed id q hq
    have hne : q ≠ p := by
      rintro rfl
      rw [hobj] at hp
      cases hp
    have hobj' : (m.send p id type).objects q = some request :=
      (Function.update_of_ne hne _ _).trans hobj
    rcases ht q (by rw [hobj', Option.isSome_some]) with ⟨-, -, j, hj⟩ | ⟨hdel', -⟩
    · rcases List.mem_append.mp hj with hj | hj
      · obtain ⟨hj, hjne⟩ := List.mem_filter.mp hj
        have hjid := (hinv.filed_unique hq hj).mpr rfl
        exact absurd hjid (by simpa using hjne)
      · exact hne (congrArg Prod.snd (List.mem_singleton.mp hj))
    · cases hdel.symm.trans hdel'
  | response msg =>
    rintro _ ⟨⟩ hfatal
    obtain ⟨halive, hresponse⟩ := Option.ite_none_right_eq_some.mp happly
    rcases hinv.checkResponse halive msg with ⟨hnot, -⟩ | ⟨-, fault, herror⟩
    · exact hnot hfatal
    · rw [herror] at hresponse
      cases hresponse
      exact ht
  | destroy => trivial

/-- Throughout a run nothing is used after its deletion and every request is deleted exactly once,
by its response or with the manager, precisely when no event entangles two of them. -/
theorem requestsOwned_iff (es : List RequestEvent) :
    Along RequestStep Owned (.ok {}) es ↔ Meets RequestStep Unentangled (.ok {}) es := by
  apply along_iff_meets (I := InOrder)
  · exact fun s h => .of_inOrder h
  · exact fun s e t h he hstep => h.step he hstep
  · exact fun s e t h hstep ht => unentangled_of_owned h hstep ht
  · refine ⟨_, rfl, ⟨List.nodup_nil, ?_, ?_, fun p _ => rfl⟩⟩
    · intro id p hp
      cases hp
    · intro p hp
      cases hp

/-- An error response, which has the code 600 as no ERROR-CODE is ever read. -/
def errorResponse : StunMessage where
  type := stunBindingErrorResponse
  length := 0
  transactionId := List.replicate 12 7
  attrs := []
  buffer := []

/-- The error response to the only request. -/
theorem errorResponse_not_owned : ¬ Along RequestStep Owned (.ok {})
    [.send 0 (List.replicate 12 7) stunBindingRequest, .response errorResponse] := by
  intro h
  have hsent := h.2 (.ok (({} : StunRequestManager).send 0 (List.replicate 12 7)
    stunBindingRequest)) ⟨{}, rfl, rfl⟩
  exact hsent.2 (.error (.requestDeleted 0)) ⟨_, rfl, rfl⟩

end XrtcServer.Ice
