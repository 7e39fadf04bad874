import XrtcServer.Ice.Receiving
import XrtcServer.Ice.SignedText

/-!
# Pings in a hostile network

Two ends ping each other over a network that loses, repeats, reorders and replaces datagrams as it
likes, and can only not sign under the password of an end. The file proves that no connection takes a
response to its ping that the other end has not given to just this ping, and that none takes one
twice, whatever the order of the steps.
-/

namespace XrtcServer.Ice
open XrtcServer.Base XrtcServer.Core StunMessage IceTransportChannel

/-- The two ends. -/
inductive End
  | near
  | far
  deriving DecidableEq, Repr

def End.other : End → End
  | .near => .far
  | .far => .near

@[simp] lemma End.other_other (e : End) : e.other.other = e := by cases e <;> rfl

/-- The channels of the two ends, with what each has signed as a ping and as an answer. -/
structure Session where
  channel : End → IceTransportChannel
  pings : End → List Signed := fun _ => []
  answers : End → List PingAnswer := fun _ => []

/-- What can happen at an end. The network chooses the datagrams that are received. -/
inductive SessionEvent
  | ping (e : End) (id : TransactionId) (now : Int)
  | receive (e : End) (data : Bytes) (now : Int)
  | updateState (e : End) (now : Int)
  | remoteIceParams (e : End) (params : IceParameters)
  deriving DecidableEq, Repr

namespace Session

variable (crc32 : Bytes → Nat) (hmac : Bytes → Bytes → Bytes) (params : End → IceParameters)
  (p : End → ConnPtr)

/-- The connection of an end, which is at `p`. -/
def conn (s : Session) (e : End) : IceConnection := (s.channel e).memory (p e)

def setChannel (s : Session) (e : End) (ch : IceTransportChannel) : Session :=
  { s with channel := Function.update s.channel e ch }

/-- What is signed for a ping of the transaction `id`. -/
def signedPing (s : Session) (e : End) (id : TransactionId) : Option Signed :=
  (signedPart (build 0x0001 id (prepareAttributes (params e) (s.conn p e)))).map fun text =>
    ⟨id, (s.conn p e).remoteCandidate.password, text⟩

/-- One event. Pings are sent to candidates whose credentials are known, with a random string of the
right length. -/
def apply (s : Session) : SessionEvent → Option Session
  | .ping e id now =>
    let remote := (s.conn p e).remoteCandidate
    if remote.username.isEmpty || remote.password.isEmpty ||
        id.length ≠ kStunTransactionIdLength then none
    else
      some { s.setChannel e ((s.channel e).modify (p e) (IceTransportChannel.ping id now)) with
        pings := Function.update s.pings e (s.pings e ++ (s.signedPing params p e id).toList) }
  | .receive e data now =>
    ((s.channel e).connectionOnReadPacket crc32 hmac (params e).icePwd (p e) data now).toOption.map
      fun channel =>
        { s.setChannel e channel with
          answers := Function.update s.answers e
            (s.answers e ++ (answerTo crc32 hmac (params e) (s.conn p e) data).toList) }
  | .updateState e now =>
    some (s.setChannel e ((s.channel e).updateConnectionState (p e) now))
  | .remoteIceParams e remote =>
    some (s.setChannel e ((s.channel e).modify (p e) (maybeSetRemoteIceParams remote)))

/-- The transition relation of the two ends. -/
def Step (s : Session) (e : SessionEvent) (t : Session) : Prop :=
  s.apply crc32 hmac params p e = some t

/-- Two connections that were just created for these candidates. -/
def start (ch : End → IceTransportChannel) (port : End → Nat) (localPriority : End → UInt32)
    (remote : End → Candidate) : Session where
  channel e := (ch e).newConnection (p e)
    { port := port e, localPriority := localPriority e, remoteCandidate := remote e }

/-- One of the ends has signed the text under the password. -/
def Has (s : Session) (password text : Bytes) : Prop :=
  ∃ e, ∃ g ∈ s.pings e ++ (s.answers e).map PingAnswer.response, g.password = password ∧ g.text = text

/-- A datagram carries no digest under the password of an end that no end has computed, the random
string of a ping is a new one, and the signalling tells the credentials of the other end. -/
def Unforged (s : Session) : SessionEvent → Prop
  | .ping e id _ => ∀ g ∈ s.pings e, g.id ≠ id
  | .receive _ data _ => ∀ e text, Carries hmac (params e).icePwd data text →
      s.Has (params e).icePwd text
  | .updateState _ _ => True
  | .remoteIceParams e remote => remote = params e.other

/-- The connection of the end lives, and each of its samples comes from another one of its pings,
which the other end has accepted as it was signed and answered. It is not writable without one. -/
def Authentic (s : Session) (e : End) : Prop :=
  (s.channel e).live (p e) = true ∧ ∃ ids : List TransactionId, ids.Nodup ∧
    ids.length = (s.conn p e).rttSamples ∧
    ((s.conn p e).writeState = .stateWritable → ids ≠ []) ∧
    ∀ id ∈ ids, ∃ g ∈ s.pings e, ∃ a ∈ s.answers e.other, g.id = id ∧ a.response.id = id ∧
      g.password = (params e.other).icePwd ∧ a.request = g.text

end Session

variable {crc32 : Bytes → Nat} {hmac : Bytes → Bytes → Bytes} {params : IceParameters}
  {icePwd data text : Bytes} {conn : IceConnection} {ch ch' : IceTransportChannel} {c : ConnPtr}
  {now : Int} {msg : StunMessage}

lemma writable_of_nextWriteState {deadline : Int → Int} {state : WriteState} {times : List Int}
    (h : nextWriteState deadline state times now = .stateWritable) : state = .stateWritable := by
  by_contra hne
  unfold nextWriteState at h
  simp only [hne, false_and, if_false] at h
  split at h
  · cases h
  · exact hne h

/-- `update_state` makes no connection writable. -/
lemma memory_updateConnectionState (ch : IceTransportChannel) (c : ConnPtr) (now : Int) :
    ∃ writeState selected receiving, (ch.updateConnectionState c now).memory c =
        { ch.memory c with writeState, selected, receiving } ∧
      (writeState = .stateWritable → (ch.memory c).writeState = .stateWritable) := by
  obtain ⟨b, hfirst⟩ := memory_becomeUnreliable ch c c now
  obtain ⟨b', hsecond⟩ := memory_becomeTimedOut (ch.becomeUnreliable c now) c c now
  obtain ⟨selected, receiving, hthird⟩ :=
    memory_updateReceiving ((ch.becomeUnreliable c now).becomeTimedOut c now) c now
  rw [if_pos rfl] at hfirst hsecond
  rw [hfirst] at hsecond
  rw [hsecond] at hthird
  refine ⟨_, selected, receiving, hthird, ?_⟩
  intro hwritable
  have hstate := writeState_updateConnectionState ch c c now
  rw [updateConnectionState, hthird, if_pos rfl] at hstate
  exact writable_of_nextWriteState (hstate.symm.trans hwritable)

namespace Session

variable (params : End → IceParameters) (p : End → ConnPtr) (s : Session) (e : End)

/-! ## The invariant -/

/-- What an end has signed is what its credentials and those of the other end allow, and each of its
answers is one to a ping of the other end. -/
structure LogInv : Prop where
  pings : ∀ g ∈ s.pings e, g.password = (params e.other).icePwd ∧
    Heads stunBindingRequest g.id g.text
  answers : ∀ a ∈ s.answers e, a.response.password = (params e).icePwd ∧
    Heads stunBindingResponse a.response.id a.response.text ∧
    ∃ g ∈ s.pings e.other, g.id = a.response.id ∧ a.request = g.text

/-- The connection of an end waits for answers to its pings, and has taken answers of the other end
only, each once. -/
structure ConnInv : Prop where
  live : (s.channel e).live (p e) = true
  password : (s.conn p e).remoteCandidate.password = [] ∨
    (s.conn p e).remoteCandidate.password = (params e.other).icePwd
  requests : ∀ id, ((s.conn p e).requests id).isSome = true →
    (s.conn p e).remoteCandidate.password = (params e.other).icePwd ∧
      ∃ g ∈ s.pings e, g.id = id
  samples : ∃ ids : List TransactionId, ids.Nodup ∧ ids.length = (s.conn p e).rttSamples ∧
    ((s.conn p e).writeState = .stateWritable → ids ≠ []) ∧
    ∀ id ∈ ids, (s.conn p e).requests id = none ∧ ∃ a ∈ s.answers e.other, a.response.id = id

variable {params p s e} {t : Session} {crc32 : Bytes → Nat} {hmac : Bytes → Bytes → Bytes}

lemma LogInv.other (h : LogInv params s e) (hpings : t.pings e = s.pings e)
    (hanswers : t.answers e = s.answers e) (hasked : s.pings e.other ⊆ t.pings e.other) :
    LogInv params t e where
  pings := hpings ▸ h.pings
  answers a ha := by
    obtain ⟨hpassword, hheads, g, hg, hrest⟩ := h.answers a (hanswers ▸ ha)
    exact ⟨hpassword, hheads, g, hasked hg, hrest⟩

lemma ConnInv.other (h : ConnInv params p s e) (hchannel : t.channel e = s.channel e)
    (hpings : s.pings e ⊆ t.pings e) (hgiven : s.answers e.other ⊆ t.answers e.other) :
    ConnInv params p t e := by
  have hconn : t.conn p e = s.conn p e := by rw [conn, hchannel, conn]
  refine ⟨hchannel ▸ h.live, hconn ▸ h.password, ?_, ?_⟩
  · rw [hconn]
    intro id hid
    obtain ⟨hpassword, g, hg, heq⟩ := h.requests id hid
    exact ⟨hpassword, g, hpings hg, heq⟩
  · rw [hconn]
    obtain ⟨ids, hnodup, hlength, hwritable, hids⟩ := h.samples
    refine ⟨ids, hnodup, hlength, hwritable, fun id hid => ?_⟩
    obtain ⟨hnone, a, ha, heq⟩ := hids id hid
    exact ⟨hnone, a, hgiven ha, heq⟩

/-! ## One step -/

lemma other_ne (e : End) : e.other ≠ e := by cases e <;> decide

lemma eq_other_of_ne {e e' : End} (h : e' ≠ e) : e' = e.other := by
  cases e <;> cases e' <;> first | rfl | exact absurd rfl h

/-- The ends have different passwords, and neither is empty. -/
structure Secret (params : End → IceParameters) : Prop where
  ne : (params .near).icePwd ≠ (params .far).icePwd
  nonempty : ∀ e, (params e).icePwd ≠ []

lemma Secret.eq {e e' : End} (h : Secret params) (heq : (params e).icePwd = (params e').icePwd) :
    e = e' := by
  have hne := h.ne
  cases e <;> cases e' <;> first | rfl | exact absurd heq hne | exact absurd heq.symm hne

section log
variable (h : ∀ e, LogInv params s e) (hsecret : Secret params)
  (hunforged : ∀ e text, Carries hmac (params e).icePwd data text → s.Has (params e).icePwd text)
include h hsecret hunforged

/-- A request under the password of an end that carries a digest is a ping of the other end. -/
lemma exists_ping_of_carries {id : TransactionId}
    (hcarries : Carries hmac (params e).icePwd data text) (hheads : Heads stunBindingRequest id text) :
    ∃ g ∈ s.pings e.other, g.id = id ∧ text = g.text := by
  obtain ⟨e', g, hg, hpassword, rfl⟩ := hunforged e text hcarries
  rcases List.mem_append.mp hg with hg | hg
  · obtain ⟨hown, hping⟩ := (h e').pings g hg
    have he := hsecret.eq (hown.symm.trans hpassword)
    refine ⟨g, ?_, (hping.unique hheads).2, rfl⟩
    rw [← he, End.other_other]
    exact hg
  · obtain ⟨a, ha, rfl⟩ := List.mem_map.mp hg
    cases (((h e').answers a ha).2.1.unique hheads).1

/-- A response under the password of an end that carries a digest is an answer of that end. -/
lemma exists_answer_of_carries {id : TransactionId} {n : Nat}
    (hn : n = stunBindingResponse ∨ n = stunBindingErrorResponse)
    (hcarries : Carries hmac (params e).icePwd data text) (hheads : Heads n id text) :
    n = stunBindingResponse ∧ ∃ a ∈ s.answers e, a.response.id = id := by
  obtain ⟨e', g, hg, hpassword, rfl⟩ := hunforged e text hcarries
  rcases List.mem_append.mp hg with hg | hg
  · have htype := (((h e').pings g hg).2.unique hheads).1
    rcases hn with rfl | rfl <;> cases htype
  · obtain ⟨a, ha, rfl⟩ := List.mem_map.mp hg
    obtain ⟨hown, hanswer, -⟩ := (h e').answers a ha
    obtain ⟨rfl, hid⟩ := hanswer.unique hheads
    exact ⟨rfl, a, hsecret.eq (hown.symm.trans hpassword) ▸ ha, hid⟩

end log

variable (params p s) in
/-- Both parts of the invariant at both ends. -/
def Inv : Prop := ∀ e, LogInv params s e ∧ ConnInv params p s e

lemma exists_signedPing (s : Session) (e : End) (id : TransactionId) :
    ∃ text, s.signedPing params p e id =
      some ⟨id, (s.conn p e).remoteCandidate.password, text⟩ := ⟨_, rfl⟩

/-- An event at one end that adds to what this end has signed leaves the other as it is. -/
lemma Inv.of_own (h : Inv params p s) (hchannel : t.channel e.other = s.channel e.other)
    (hpings : t.pings e.other = s.pings e.other) (hanswers : t.answers e.other = s.answers e.other)
    (hsub : s.pings e ⊆ t.pings e) (hsub' : s.answers e ⊆ t.answers e)
    (hlog : LogInv params t e) (hconn : ConnInv params p t e) : Inv params p t := by
  intro e'
  by_cases he : e' = e
  · rw [he]
    exact ⟨hlog, hconn⟩
  · obtain rfl := eq_other_of_ne he
    refine ⟨(h e.other).1.other hpings hanswers ?_, (h e.other).2.other hchannel (hpings ▸ fun _ => id) ?_⟩
    · rw [End.other_other]
      exact hsub
    · rw [End.other_other]
      exact hsub'

/-- An event that leaves what was signed, and the connection as far as the invariant sees it. -/
lemma Inv.of_conn (h : Inv params p s) {ch : IceTransportChannel} (hlive : ch.live (p e) = true)
    (hpassword : (ch.memory (p e)).remoteCandidate.password = (s.conn p e).remoteCandidate.password ∨
      (s.conn p e).remoteCandidate.password = [] ∧
        (ch.memory (p e)).remoteCandidate.password = (params e.other).icePwd)
    (hrequests : (ch.memory (p e)).requests = (s.conn p e).requests)
    (hsamples : (ch.memory (p e)).rttSamples = (s.conn p e).rttSamples)
    (hwritable : (ch.memory (p e)).writeState = .stateWritable →
      (s.conn p e).writeState = .stateWritable) : Inv params p (s.setChannel e ch) := by
  have hchannel : (s.setChannel e ch).channel e = ch := Function.update_self ..
  have hconn : (s.setChannel e ch).conn p e = ch.memory (p e) := by rw [conn, hchannel]
  obtain ⟨hlog, hinv⟩ := h e
  refine h.of_own (Function.update_of_ne (other_ne e) ..) rfl rfl (fun _ => id) (fun _ => id)
    (hlog.other rfl rfl (fun _ => id)) ⟨by rwa [hchannel], ?_, ?_, ?_⟩
  · rw [hconn]
    rcases hpassword with heq | ⟨-, hset⟩
    · exact heq ▸ hinv.password
    · exact Or.inr hset
  · rw [hconn, hrequests]
    intro id hid
    obtain ⟨hset, hping⟩ := hinv.requests id hid
    refine ⟨?_, hping⟩
    rcases hpassword with heq | ⟨-, hset'⟩
    · exact heq.trans hset
    · exact hset'
  · rw [hconn, hrequests, hsamples]
    obtain ⟨ids, hnodup, hlength, hne, hids⟩ := hinv.samples
    exact ⟨ids, hnodup, hlength, fun hw => hne (hwritable hw), hids⟩

lemma Inv.updateState (h : Inv params p s) (e : End) (now : Int) :
    Inv params p (s.setChannel e ((s.channel e).updateConnectionState (p e) now)) := by
  obtain ⟨writeState, selected, receiving, hmemory, hwritable⟩ :=
    memory_updateConnectionState (s.channel e) (p e) now
  have hlive := (reports_keepsTimes (p := p e)).updateConnectionState (s.channel e) (p e) now
  refine h.of_conn (hlive.live.trans (h e).2.live) (Or.inl ?_) ?_ ?_ ?_ <;> rw [hmemory]
  · rfl
  · rfl
  · rfl
  · exact hwritable

lemma Inv.remoteIceParams (h : Inv params p s) (e : End) :
    Inv params p (s.setChannel e
      ((s.channel e).modify (p e) (maybeSetRemoteIceParams (params e.other)))) := by
  have hmemory : ((s.channel e).modify (p e) (maybeSetRemoteIceParams (params e.other))).memory
      (p e) = maybeSetRemoteIceParams (params e.other) (s.conn p e) := by
    rw [memory_modify, if_pos rfl, conn]
  refine h.of_conn (h e).2.live ?_ ?_ ?_ ?_ <;> rw [hmemory] <;> unfold maybeSetRemoteIceParams <;>
    split
  · rename_i hset
    exact Or.inr ⟨hset.2, rfl⟩
  · exact Or.inl rfl
  all_goals first | rfl | exact fun hw => hw

lemma Inv.ping (h : Inv params p s) {id : TransactionId} (hlen : id.length = kStunTransactionIdLength)
    (hpassword : (s.conn p e).remoteCandidate.password ≠ []) (hnew : ∀ g ∈ s.pings e, g.id ≠ id)
    (now : Int) :
    Inv params p { s.setChannel e ((s.channel e).modify (p e) (IceTransportChannel.ping id now)) with
      pings := Function.update s.pings e (s.pings e ++ (s.signedPing params p e id).toList) } := by
  obtain ⟨hlog, hinv⟩ := h e
  have hset := hinv.password.resolve_left hpassword
  obtain ⟨text, htext⟩ := @exists_signedPing params p s e id
  obtain ⟨t, ht⟩ : ∃ t : Session, t =
      { s.setChannel e ((s.channel e).modify (p e) (IceTransportChannel.ping id now)) with
        pings := Function.update s.pings e (s.pings e ++ (s.signedPing params p e id).toList) } :=
    ⟨_, rfl⟩
  rw [← ht]
  have hpings : t.pings e =
      s.pings e ++ [⟨id, (s.conn p e).remoteCandidate.password, text⟩] := by
    rw [ht, ← Option.toList_some, ← htext]
    exact Function.update_self ..
  have hchannel : t.channel e = (s.channel e).modify (p e) (IceTransportChannel.ping id now) := by
    rw [ht]
    exact Function.update_self ..
  have hconn : t.conn p e = IceTransportChannel.ping id now (s.conn p e) := by
    rw [conn, hchannel, memory_modify, if_pos rfl, conn]
  have hrequests : (t.conn p e).requests =
      Function.update (s.conn p e).requests id (some now) := by
    rw [hconn]
    rfl
  have hothers : t.pings e.other = s.pings e.other := by
    rw [ht]
    exact Function.update_of_ne (other_ne e) ..
  have hanswers : t.answers = s.answers := by
    rw [ht]
    rfl
  have hsub : s.pings e ⊆ t.pings e := hpings ▸ List.subset_append_left _ _
  refine h.of_own ?_ hothers (by rw [hanswers]) hsub (by rw [hanswers]; exact fun _ ha => ha)
    ⟨?_, ?_⟩ ⟨?_, ?_, ?_, ?_⟩
  · rw [ht]
    exact Function.update_of_ne (other_ne e) ..
  · rw [hpings, List.forall_mem_append, List.forall_mem_singleton]
    refine ⟨hlog.pings, hset, ?_⟩
    obtain ⟨text', htext', heq⟩ := Option.map_eq_some_iff.mp htext
    obtain rfl : text' = text := congrArg Signed.text heq
    exact heads_signedPart hlen htext'
  · rw [hanswers, hothers]
    exact hlog.answers
  · rw [hchannel]
    exact hinv.live
  · rw [hconn]
    exact hinv.password
  · rw [hrequests, hconn]
    intro id' hid'
    refine ⟨hset, ?_⟩
    by_cases heq : id' = id
    · rw [hpings]
      exact ⟨_, List.mem_append_right _ (List.mem_singleton.mpr rfl), heq.symm⟩
    · rw [Function.update_of_ne heq] at hid'
      obtain ⟨-, g, hg, hid⟩ := hinv.requests id' hid'
      exact ⟨g, hsub hg, hid⟩
  · rw [hrequests, hconn, hanswers]
    obtain ⟨ids, hnodup, hlength, hwritable, hids⟩ := hinv.samples
    refine ⟨ids, hnodup, hlength, hwritable, fun id' hid' => ?_⟩
    obtain ⟨hnone, a, ha, heq⟩ := hids id' hid'
    have hne : id' ≠ id := by
      obtain ⟨g, hg, hasked, -⟩ := ((h e.other).1.answers a ha).2.2
      rw [End.other_other] at hg
      rw [← heq, ← hasked]
      exact hnew g hg
    refine ⟨?_, a, ha, heq⟩
    rw [Function.update_of_ne hne]
    exact hnone

/-- The answers of an end grow by one to a ping of the other end. -/
lemma LogInv.receive (h : ∀ e, LogInv params s e) (hsecret : Secret params)
    (hunforged : ∀ e text, Carries hmac (params e).icePwd data text → s.Has (params e).icePwd text)
    (hpings : t.pings = s.pings) (hanswers : t.answers e =
      s.answers e ++ (answerTo crc32 hmac (params e) (s.conn p e) data).toList) :
    LogInv params t e where
  pings := hpings ▸ (h e).pings
  answers := by
    rw [hanswers, List.forall_mem_append, hpings]
    refine ⟨(h e).answers, fun a ha => ?_⟩
    obtain ⟨hcarries, hpassword, hrequest, hresponse⟩ := answerTo_spec (Option.mem_toList.mp ha)
    exact ⟨hpassword, hresponse, exists_ping_of_carries h hsecret hunforged hcarries hrequest⟩

/-- A datagram leaves the connection as it is or is the first response to a ping that was answered. -/
lemma ConnInv.receive (h : Inv params p s) (hsecret : Secret params)
    (hunforged : ∀ e text, Carries hmac (params e).icePwd data text → s.Has (params e).icePwd text)
    {ch : IceTransportChannel} {now : Int} (htaken : (s.channel e).connectionOnReadPacket crc32 hmac
      (params e).icePwd (p e) data now = .ok ch)
    (hchannel : t.channel e = ch) (hpings : t.pings e = s.pings e)
    (hgiven : t.answers e.other = s.answers e.other) : ConnInv params p t e := by
  have hinv := (h e).2
  by_cases hch : ch = s.channel e
  · exact hinv.other (hchannel.trans hch) (hpings ▸ List.Subset.refl _) (hgiven ▸ List.Subset.refl _)
  · obtain ⟨msg, text, ts, htype, hts, hcarries, hheads, rfl⟩ :=
      connectionOnReadPacket_taken htaken hch
    obtain ⟨hpassword, hping⟩ := hinv.requests msg.transactionId
      (by rw [conn, hts, Option.isSome_some])
    rw [conn] at hpassword
    rw [hpassword] at hcarries
    obtain ⟨htype', a, ha, hid⟩ :=
      exists_answer_of_carries (fun e => (h e).1) hsecret hunforged htype hcarries hheads
    obtain ⟨selected, receiving, hmemory⟩ := memory_onConnectionRequestResponse (s.channel e) (p e)
      ts now msg.transactionId
    have htakes : (s.channel e).checkResponse (p e) msg now =
        ((s.channel e).onConnectionRequestResponse (p e) ts now).removeRequest (p e)
          msg.transactionId := by
      unfold checkResponse
      rw [hts]
      exact if_pos htype'
    rw [htakes] at hchannel
    have hlive := ((reports_keepsTimes (p := p e)).receivedPingResponse (s.channel e) (p e)
      (toInt (now - ts)) now).trans (reports_keepsTimes.removeRequest _ (p e) msg.transactionId)
    obtain ⟨new, hnew⟩ : ∃ new, new = answered ts now msg.transactionId (s.conn p e) selected
      receiving := ⟨_, rfl⟩
    have hconn : t.conn p e = new := by rw [conn, hchannel, hmemory, hnew, conn]
    have hrequests : new.requests =
        Function.update (s.conn p e).requests msg.transactionId none := by rw [hnew]; rfl
    refine ⟨by rw [hchannel]; exact hlive.live.trans hinv.live, ?_, ?_, ?_⟩
    · rw [hconn, hnew]
      exact hinv.password
    · rw [hconn, hrequests, hpings]
      intro id hid
      have hne : id ≠ msg.transactionId := by
        rintro rfl
        rw [Function.update_self] at hid
        cases hid
      rw [Function.update_of_ne hne] at hid
      exact ⟨by rw [hnew]; exact (hinv.requests id hid).1, (hinv.requests id hid).2⟩
    · obtain ⟨ids, hnodup, hlength, -, hids⟩ := hinv.samples
      rw [hconn, hrequests, hgiven]
      refine ⟨msg.transactionId :: ids, List.nodup_cons.mpr ⟨fun hmem => ?_, hnodup⟩, ?_,
        fun _ => List.cons_ne_nil _ _, List.forall_mem_cons.mpr ⟨⟨Function.update_self .., a, ha, hid⟩,
          fun id hmem => ⟨?_, (hids id hmem).2⟩⟩⟩
      · have hnone := (hids _ hmem).1
        rw [conn, hts] at hnone
        cases hnone
      · rw [List.length_cons, hlength, hnew]
        rfl
      · by_cases heq : id = msg.transactionId
        · rw [heq, Function.update_self]
        · rw [Function.update_of_ne heq]
          exact (hids id hmem).1

/-- Whatever happens at an end, the invariant stays. -/
lemma Inv.step {ev : SessionEvent} (h : Inv params p s) (hsecret : Secret params)
    (hunforged : s.Unforged hmac params ev) (hstep : s.Step crc32 hmac params p ev t) :
    Inv params p t := by
  cases ev with
  | ping e id now =>
    unfold Step apply at hstep
    dsimp only at hstep
    split at hstep
    · cases hstep
    · rename_i hguard
      cases hstep
      simp only [Bool.or_eq_true, List.isEmpty_iff, decide_eq_true_eq, not_or, not_not] at hguard
      exact h.ping hguard.2 hguard.1.2 hunforged now
  | receive e data now =>
    obtain ⟨ch, hch, rfl⟩ := Option.map_eq_some_iff.mp hstep
    have hlog : ∀ e, LogInv params s e := fun e => (h e).1
    have hanswers : Function.update s.answers e (s.answers e ++ (answerTo crc32 hmac (params e)
        (s.conn p e) data).toList) e = s.answers e ++ (answerTo crc32 hmac (params e)
          (s.conn p e) data).toList := Function.update_self ..
    have hothers := Function.update_of_ne (other_ne e) (s.answers e ++ (answerTo crc32 hmac
      (params e) (s.conn p e) data).toList) s.answers
    have hsub := hanswers.symm ▸ List.subset_append_left (s.answers e) _
    refine h.of_own (e := e) (Function.update_of_ne (other_ne e) ..) rfl hothers
      (fun _ hg => hg) hsub (LogInv.receive hlog hsecret hunforged rfl hanswers)
      (ConnInv.receive h hsecret hunforged (eq_ok_of_toOption hch) (Function.update_self ..) rfl
        hothers)
  | updateState e now =>
    cases hstep
    exact h.updateState e now
  | remoteIceParams e remote =>
    cases hstep
    obtain rfl : remote = params e.other := hunforged
    exact h.remoteIceParams e

lemma Inv.authentic (h : Inv params p s) (e : End) : s.Authentic params p e := by
  obtain ⟨ids, hnodup, hlength, hwritable, hids⟩ := (h e).2.samples
  refine ⟨(h e).2.live, ids, hnodup, hlength, hwritable, fun id hid => ?_⟩
  obtain ⟨-, a, ha, heq⟩ := hids id hid
  obtain ⟨-, -, g, hg, hasked, hrequest⟩ := (h e.other).1.answers a ha
  rw [End.other_other] at hg
  exact ⟨g, hg, a, ha, hasked.trans heq, heq, ((h e).1.pings g hg).1, hrequest⟩

/-- In every run of two ends with passwords of their own, however the network treats the datagrams,
as long as nobody else signs under these passwords: the connections live, and each sample of the
round-trip time stands for one ping, which reached the other end as it was signed and was answered
there. -/
theorem pings_authentic (crc32 : Bytes → Nat) (hmac : Bytes → Bytes → Bytes)
    (hsecret : Secret params) (ch : End → IceTransportChannel) (port : End → Nat)
    (localPriority : End → UInt32) {remote : End → Candidate}
    (hremote : ∀ e, (remote e).password = [] ∨ (remote e).password = (params e.other).icePwd)
    {es : List SessionEvent}
    (hunforged : Meets (Step crc32 hmac params p) (Unforged hmac params)
      (start p ch port localPriority remote) es) :
    Along (Step crc32 hmac params p) (fun s => ∀ e, s.Authentic params p e)
      (start p ch port localPriority remote) es := by
  have hstart : Inv params p (start p ch port localPriority remote) := by
    intro e
    have hconn : (start p ch port localPriority remote).conn p e =
        { port := port e, localPriority := localPriority e, remoteCandidate := remote e } :=
      Function.update_self ..
    refine ⟨⟨nofun, nofun⟩, Function.update_self .., ?_, ?_, ?_⟩
    · rw [hconn]
      exact hremote e
    · rw [hconn]
      exact fun id hid => by cases hid
    · rw [hconn]
      exact ⟨[], List.nodup_nil, rfl, nofun, nofun⟩
  exact (hunforged.along (fun s e t h hC hstep => h.step hsecret hC hstep) hstart).mono
    fun s h e => h.authentic e

/-- A digest that tells the passwords of the two ends apart. -/
def sampleHmac (password _ : Bytes) : Bytes := List.replicate 20 (password.headD 0)

def sampleParams : End → IceParameters
  | .near => ⟨[97], [112]⟩
  | .far => ⟨[98], [113]⟩

def sampleRemote : End → Candidate
  | .near => pingingConnection.remoteCandidate
  | .far => answeringConnection.remoteCandidate

/-- The ping of the near end, as it is sent. -/
def samplePing : Bytes :=
  (sendPing (fun _ => 9) sampleHmac ⟨[97], [112]⟩ pingingConnection (List.replicate 12 7)).getD []

/-- The answer of the far end. -/
def sampleAnswer : Bytes :=
  match reply (fun _ => 9) sampleHmac ⟨[98], [113]⟩ answeringConnection samplePing with
  | .ok (some answer) => answer
  | _ => []

/-- A ping that is answered, and its answer twice. -/
def sampleRun : List SessionEvent :=
  [.ping .near (List.replicate 12 7) 1000, .receive .far samplePing 1010,
    .receive .near sampleAnswer 1040, .receive .near sampleAnswer 1050]

def sampleStart : Session :=
  start (fun _ => 0) (fun _ => initial fun _ => pingingConnection) (fun _ => 0) (fun _ => 7)
    sampleRemote

/-- What `Unforged` asks of an event, for an end and the one text that a datagram can carry. -/
def unforgedBy (hmac : Bytes → Bytes → Bytes) (params : End → IceParameters) (s : Session) :
    SessionEvent → End → Bool
  | .ping e id _, _ => (s.pings e).all (·.id ≠ id)
  | .receive _ data _, e =>
    validateMessageIntegrityOfType hmac data (params e).icePwd ≠ .ok true ||
      (signedText data).all fun text =>
        (s.pings e.other ++ (s.answers e).map PingAnswer.response).any fun g =>
          g.password = (params e).icePwd && g.text = text
  | .updateState _ _, _ => true
  | .remoteIceParams e remote, _ => remote = params e.other

lemma unforged_of_unforgedBy {ev : SessionEvent} (h : ∀ e, s.unforgedBy hmac params ev e = true) :
    s.Unforged hmac params ev := by
  cases ev with
  | ping e id now => simpa [unforgedBy, Unforged] using h e
  | receive e data now =>
    rintro e text ⟨hvalid, htext⟩
    have he := h e
    simp only [unforgedBy, hvalid, ne_eq, not_true, decide_false, Bool.false_or, htext,
      Option.all_some, List.any_eq_true, Bool.and_eq_true, decide_eq_true_eq] at he
    obtain ⟨g, hg, hrest⟩ := he
    rcases List.mem_append.mp hg with hg | hg
    · exact ⟨e.other, g, List.mem_append_left _ hg, hrest⟩
    · exact ⟨e, g, List.mem_append_right _ hg, hrest⟩
  | updateState e now => trivial
  | remoteIceParams e remote => simpa [unforgedBy, Unforged] using h e

/-- The run with the test of every event. -/
def unforgedRun (crc32 : Bytes → Nat) (hmac : Bytes → Bytes → Bytes) (params : End → IceParameters)
    (p : End → ConnPtr) : Session → List SessionEvent → Bool
  | _, [] => true
  | s, ev :: es => s.unforgedBy hmac params ev .near && s.unforgedBy hmac params ev .far &&
      (s.apply crc32 hmac params p ev).all (unforgedRun crc32 hmac params p · es)

lemma meets_of_unforgedRun {es : List SessionEvent}
    (h : unforgedRun crc32 hmac params p s es = true) :
    Meets (Step crc32 hmac params p) (Unforged hmac params) s es := by
  induction es generalizing s with
  | nil => trivial
  | cons ev es ih =>
    intro t ht
    simp only [unforgedRun, Bool.and_eq_true, show s.apply crc32 hmac params p ev = some t from ht,
      Option.all_some] at h
    exact ⟨unforged_of_unforgedBy fun e => by cases e; exacts [h.1.1, h.1.2], ih h.2⟩

/-- The second copy of the answer changes nothing. -/
lemma sampleRun_samples : (sampleRun.foldlM (apply (fun _ => 9) sampleHmac sampleParams fun _ => 0)
    sampleStart).map (fun s => (s.conn (fun _ => 0) .near).rttSamples) = some 1 := by
  decide +kernel

/-- The far end has accepted the ping of the near end. -/
theorem sampleRun_authentic : ∃ s, Leads
    (Step (fun _ => 9) sampleHmac sampleParams fun _ => 0) sampleStart sampleRun s ∧
    (s.conn (fun _ => 0) .near).rttSamples = 1 ∧ s.Authentic sampleParams (fun _ => 0) .near := by
  obtain ⟨s, hs, hsamples⟩ := Option.map_eq_some_iff.mp sampleRun_samples
  have hsecret : Secret sampleParams := ⟨by decide, fun e => by cases e <;> decide⟩
  have hremote : ∀ e, (sampleRemote e).password = [] ∨
      (sampleRemote e).password = (sampleParams e.other).icePwd := fun e => by
    cases e <;> exact Or.inr rfl
  have halong := @pings_authentic _ (fun _ => 0) (fun _ => 9) sampleHmac hsecret
    (fun _ => initial fun _ => pingingConnection) (fun _ => 0) (fun _ => 7) sampleRemote hremote
    sampleRun (meets_of_unforgedRun (by decide +kernel))
  exact ⟨s, leads_of_foldlM (fun _ _ _ h => h) hs, hsamples,
    halong.last (fun _ _ _ h => h) hs .near⟩

end Session

end XrtcServer.Ice
