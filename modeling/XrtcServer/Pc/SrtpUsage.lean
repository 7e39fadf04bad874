import Mathlib.Algebra.BigOperators.Group.List.Basic
import XrtcServer.Core.Run
import XrtcServer.Pc.DtlsSrtpTransport

/-!
# The usage count of libsrtp

`g_libsrtp_usage_count` is shared by all SRTP sessions: it is raised before the key of a session is
installed and lowered when the session is destroyed, each time under `g_libsrtp_lock`. The file runs
the calls on any number of transports with their lock sections in any order. A lock section stands
with the code of its thread up to the next one, which touches nothing but the transport.
-/

namespace XrtcServer.Pc
open XrtcServer.Base XrtcServer.Core

inductive LibsrtpCall
  | init
  | installEventHandler
  | shutdown
  deriving DecidableEq, Repr

/-- `g_libsrtp_usage_count`, and the calls made under its lock, the last one first. -/
structure Libsrtp where
  usageCount : Int := 0
  calls : List LibsrtpCall := []

/-- What libsrtp answers in `_set_key` and `_update_key`. -/
structure LibsrtpAnswers where
  init : Bool := true
  installEventHandler : Bool := true
  authTagLens : Option (Nat × Nat) := some (10, 10)
  install : Bool := true

/-- The answers for one session, given what the count led to. -/
def LibsrtpAnswers.keyAnswers (a : LibsrtpAnswers) (init : Bool) : KeyAnswers :=
  { init, authTagLens := a.authTagLens, install := a.install }

@[simp] lemma LibsrtpAnswers.keyAnswers_init (a : LibsrtpAnswers) (init : Bool) :
    (a.keyAnswers init).init = init := rfl

namespace Libsrtp

def call (c : LibsrtpCall) (g : Libsrtp) : Libsrtp := { g with calls := c :: g.calls }

/-- `_increment_libsrtp_usage_count_and_maybe_init` -/
def incrementUsageCountAndMaybeInit (a : LibsrtpAnswers) (g : Libsrtp) : Bool × Libsrtp :=
  if g.usageCount = 0 then
    let g := g.call .init
    if !a.init then (false, g)
    else
      let g := g.call .installEventHandler
      if !a.installEventHandler then (false, g)
      else (true, { g with usageCount := g.usageCount + 1 })
  else (true, { g with usageCount := g.usageCount + 1 })

/-- `_decrement_libsrtp_usage_count_and_maybe_deinit` -/
def decrementUsageCountAndMaybeDeinit (g : Libsrtp) : Libsrtp :=
  let g := { g with usageCount := g.usageCount - 1 }
  if g.usageCount = 0 then g.call .shutdown else g

/-- `_set_key`, which counts the session unless it has a key. -/
def setKey (a : LibsrtpAnswers) (key : SrtpKey) (session : SrtpSession) (g : Libsrtp) :
    Bool × SrtpSession × Libsrtp :=
  if session.session.isSome then (false, session, g)
  else
    let (init, g) := g.incrementUsageCountAndMaybeInit a
    let (ret, session) := session.setKey (a.keyAnswers init) key
    (ret, session, g)

/-- `_update_key` -/
def updateKey (a : LibsrtpAnswers) (key : SrtpKey) (session : SrtpSession) (g : Libsrtp) :
    Bool × SrtpSession × Libsrtp :=
  let (ret, session) := session.updateKey (a.keyAnswers true) key
  (ret, session, g)

/-- How `set_rtp_params` gives a session its key. -/
def install (newSession : Bool) (a : LibsrtpAnswers) (key : SrtpKey) (session : SrtpSession)
    (g : Libsrtp) : Bool × SrtpSession × Libsrtp :=
  if newSession then g.setKey a key session else g.updateKey a key session

/-- `~SrtpSession` of the session that a pointer owns, if any. -/
def destroy (session : Option SrtpSession) (g : Libsrtp) : Libsrtp :=
  match session with
  | none => g
  | some session => if session.inited then g.decrementUsageCountAndMaybeDeinit else g

end Libsrtp

/-- Where the thread of a transport is: between two calls, or ahead of the named part of
`set_rtp_params`, `reset_params` or the destructor. -/
inductive SrtpPoint
  | idle
  | create (sendKey recvKey : SrtpKey)
  | setSend (newSession : Bool) (sendKey recvKey : SrtpKey)
  | setRecv (newSession : Bool) (recvKey : SrtpKey)
  | resetSend
  | resetRecv
  | destroyRecv
  | destroySend
  | destroyed

structure SrtpTransport where
  sendSession : Option SrtpSession := none
  recvSession : Option SrtpSession := none
  point : SrtpPoint := .idle

namespace SrtpTransport

/-- The session objects of the transport. -/
def sessions (t : SrtpTransport) : List SrtpSession := t.sendSession.toList ++ t.recvSession.toList

/-- The part that is next. `none` where no call is in progress, and where a null pointer would be
dereferenced. -/
def advance (a : LibsrtpAnswers) (g : Libsrtp) (t : SrtpTransport) :
    Option (Libsrtp × SrtpTransport) :=
  match t.point with
  | .idle | .destroyed => none
  | .create sendKey recvKey =>
    some (g.destroy t.recvSession,
      { sendSession := some {}, recvSession := some {}, point := .setSend true sendKey recvKey })
  | .setSend newSession sendKey recvKey =>
    t.sendSession.map fun send =>
      let (ret, send, g) := g.install newSession a sendKey send
      let point := if ret then .setRecv newSession recvKey else .resetSend
      (g, { t with sendSession := some send, point })
  | .setRecv newSession recvKey =>
    t.recvSession.map fun recv =>
      let (ret, recv, g) := g.install newSession a recvKey recv
      let point := if ret then .idle else .resetSend
      (g, { t with recvSession := some recv, point })
  | .resetSend =>
    some (g.destroy t.sendSession, { t with sendSession := none, point := .resetRecv })
  | .resetRecv => some (g.destroy t.recvSession, { t with recvSession := none, point := .idle })
  -- the members go in the reverse order of their declaration
  | .destroyRecv =>
    some (g.destroy t.recvSession, { t with recvSession := none, point := .destroySend })
  | .destroySend =>
    some (g.destroy t.sendSession, { t with sendSession := none, point := .destroyed })

end SrtpTransport

/-- All transports that were ever made, with the globals of libsrtp. -/
structure SrtpSystem where
  libsrtp : Libsrtp := {}
  transports : List SrtpTransport := []

/-- A transport is made, one of its functions is called, or its thread goes on. -/
inductive SrtpEvent
  | new
  | setRtpParams (k : Nat) (sendKey recvKey : SrtpKey)
  | resetParams (k : Nat)
  | delete (k : Nat)
  | advance (k : Nat) (a : LibsrtpAnswers)

namespace SrtpSystem

/-- A call on the transport `k`, which has none in progress. -/
def begin (s : SrtpSystem) (k : Nat) (point : SrtpTransport → SrtpPoint) : Option SrtpSystem :=
  match s.transports[k]? with
  | some ⟨sendSession, recvSession, .idle⟩ =>
    let t : SrtpTransport := { sendSession, recvSession }
    some { s with transports := s.transports.set k { t with point := point t } }
  | _ => none

def step (s : SrtpSystem) : SrtpEvent → Option SrtpSystem
  | .new => some { s with transports := s.transports ++ [{}] }
  | .setRtpParams k sendKey recvKey => s.begin k fun t =>
    if t.sendSession.isNone then .create sendKey recvKey else .setSend false sendKey recvKey
  | .resetParams k => s.begin k fun _ => .resetSend
  | .delete k => s.begin k fun _ => .destroyRecv
  | .advance k a =>
    s.transports[k]?.bind fun t => (t.advance a s.libsrtp).map fun (libsrtp, t) =>
      { libsrtp, transports := s.transports.set k t }

def Steps (s : SrtpSystem) (e : SrtpEvent) (t : SrtpSystem) : Prop := s.step e = some t

/-- The sessions that are there with `_inited` set. -/
def initedSessions (s : SrtpSystem) : Nat :=
  (s.transports.flatMap SrtpTransport.sessions).countP (·.inited)

end SrtpSystem

/-! ## What one lock section does -/

variable {a : LibsrtpAnswers} {g g' g'' : Libsrtp} {m n m' n' : Nat} {key : SrtpKey}

def Libsrtp.shutdowns (g : Libsrtp) : Nat := g.calls.count .shutdown

/-- The count goes from `m` to `n` sessions of one transport, and `srtp_shutdown` is called if
nothing is left at all. -/
structure Counts (g g' : Libsrtp) (m n : Nat) : Prop where
  usageCount : g'.usageCount + m = g.usageCount + n
  shutdowns : g'.shutdowns =
    g.shutdowns + if g.usageCount = 1 ∧ g'.usageCount = 0 then 1 else 0

lemma counts_of_eq (husage : g'.usageCount = g.usageCount) (hshut : g'.shutdowns = g.shutdowns) :
    Counts g g' n n where
  usageCount := by rw [husage]
  shutdowns := by rw [husage, if_neg (by omega), hshut, Nat.add_zero]

lemma Counts.congr (h : Counts g g' m n) (hmn : m + n' = m' + n) : Counts g g' m' n' where
  usageCount := by
    have husage := h.usageCount
    omega
  shutdowns := h.shutdowns

namespace Libsrtp

@[simp] lemma usageCount_call (c : LibsrtpCall) (g : Libsrtp) :
    (g.call c).usageCount = g.usageCount := rfl

@[simp] lemma shutdowns_call_init (g : Libsrtp) : (g.call .init).shutdowns = g.shutdowns :=
  List.count_cons_of_ne (by decide)

@[simp] lemma shutdowns_call_installEventHandler (g : Libsrtp) :
    (g.call .installEventHandler).shutdowns = g.shutdowns :=
  List.count_cons_of_ne (by decide)

@[simp] lemma shutdowns_call_shutdown (g : Libsrtp) :
    (g.call .shutdown).shutdowns = g.shutdowns + 1 :=
  List.count_cons_self

@[simp] lemma shutdowns_setUsageCount (g : Libsrtp) (c : Int) :
    ({ g with usageCount := c } : Libsrtp).shutdowns = g.shutdowns := rfl

lemma counts_raise (husage : g'.usageCount = g.usageCount + 1)
    (hshut : g'.shutdowns = g.shutdowns) : Counts g g' 0 1 where
  usageCount := by omega
  shutdowns := by rw [husage, if_neg (by omega), hshut, Nat.add_zero]

/-- The count is raised exactly if the function returns true. -/
lemma counts_increment (a : LibsrtpAnswers) (g : Libsrtp) :
    Counts g (g.incrementUsageCountAndMaybeInit a).2 0
      (if (g.incrementUsageCountAndMaybeInit a).1 then 1 else 0) := by
  unfold incrementUsageCountAndMaybeInit
  by_cases hzero : g.usageCount = 0
  · simp only [hzero, if_true]
    cases a.init with
    | false => exact counts_of_eq (by simp) (by simp)
    | true =>
      cases a.installEventHandler with
      | false => exact counts_of_eq (by simp) (by simp)
      | true => exact counts_raise (by simp) (by simp)
  · simp only [hzero, if_false]
    exact counts_raise rfl rfl

/-- The last session to go shuts libsrtp down. -/
lemma counts_decrement (g : Libsrtp) : Counts g g.decrementUsageCountAndMaybeDeinit 1 0 := by
  unfold decrementUsageCountAndMaybeDeinit
  dsimp only
  split <;> rename_i hzero
  · refine ⟨by simp, ?_⟩
    rw [shutdowns_call_shutdown, if_pos ⟨by omega, hzero⟩]
    rfl
  · refine ⟨by simp, ?_⟩
    rw [if_neg (fun h => hzero h.2)]
    rfl

end Libsrtp

/-! ## What one part of a call does -/

/-- The sessions with `_inited` behind a pointer. -/
def counted (session : Option SrtpSession) : Nat := session.toList.countP (·.inited)

lemma counted_some (session : SrtpSession) :
    counted (some session) = if session.inited then 1 else 0 := by
  simp [counted, List.countP_singleton]

lemma SrtpSession.inited_doSetKey {answers : KeyAnswers} (session : SrtpSession) :
    (session.doSetKey answers key).2.inited = session.inited := by
  unfold SrtpSession.doSetKey
  split
  · rfl
  · split <;> rfl

namespace Libsrtp

lemma counts_setKey {session : SrtpSession} (hfresh : session.inited = false) :
    Counts g (g.setKey a key session).2.2 0 (counted (some (g.setKey a key session).2.1)) := by
  have hincrement := counts_increment a g
  unfold setKey
  split
  · rw [counted_some, hfresh]
    exact counts_of_eq rfl rfl
  · rename_i hnone
    dsimp only
    rw [counted_some, SrtpSession.setKey, if_neg hnone]
    cases hinit : (g.incrementUsageCountAndMaybeInit a).1 with
    | false => simpa [hinit, hfresh] using hincrement
    | true => simpa [hinit, SrtpSession.inited_doSetKey] using hincrement

lemma counts_updateKey {session : SrtpSession} :
    Counts g (g.updateKey a key session).2.2 (counted (some session))
      (counted (some (g.updateKey a key session).2.1)) := by
  have hsame : (g.updateKey a key session).2.1.inited = session.inited := by
    unfold updateKey SrtpSession.updateKey
    dsimp only
    split
    · rfl
    · exact SrtpSession.inited_doSetKey session
  rw [counted_some, counted_some, hsame]
  exact counts_of_eq rfl rfl

/-- A session is counted when it gets its first key, and stays so. -/
lemma counts_install (a : LibsrtpAnswers) (g : Libsrtp) (key : SrtpKey) {newSession : Bool}
    {session : SrtpSession} (hfresh : newSession = true → session.inited = false) :
    Counts g (g.install newSession a key session).2.2 (counted (some session))
      (counted (some (g.install newSession a key session).2.1)) := by
  cases newSession with
  | true =>
    have hsession : session.inited = false := hfresh rfl
    rw [counted_some session, hsession]
    exact counts_setKey hsession
  | false => exact counts_updateKey

lemma counts_destroy (session : Option SrtpSession) :
    Counts g (g.destroy session) (counted session) 0 := by
  cases session with
  | none => exact counts_of_eq rfl rfl
  | some session =>
    rw [counted_some, destroy]
    split
    · exact counts_decrement g
    · exact counts_of_eq rfl rfl

end Libsrtp

namespace SrtpTransport

variable {t t' : SrtpTransport}

def counted (t : SrtpTransport) : Nat := t.sessions.countP (·.inited)

lemma counted_eq (t : SrtpTransport) :
    t.counted = Pc.counted t.sendSession + Pc.counted t.recvSession :=
  List.countP_append

/-- What is known of the sessions at each point: a session that is keyed for the first time is not
counted yet, and between two calls there are both sessions or none. -/
def Keyed (t : SrtpTransport) : Prop :=
  match t.point with
  | .idle => t.sendSession.isSome = t.recvSession.isSome
  | .create _ _ => t.sendSession = none ∧ t.recvSession = none
  | .setSend newSession _ _ => ∃ send recv, t.sendSession = some send ∧ t.recvSession = some recv ∧
    (newSession = true → send.inited = false ∧ recv.inited = false)
  | .setRecv newSession _ => ∃ send recv, t.sendSession = some send ∧ t.recvSession = some recv ∧
    (newSession = true → recv.inited = false)
  | .resetSend | .destroyRecv => True
  | .resetRecv => t.sendSession = none
  | .destroySend => t.recvSession = none
  | .destroyed => t.sendSession = none ∧ t.recvSession = none

/-- No part dereferences a null pointer. -/
lemma advance_isSome (h : t.Keyed) (hidle : t.point ≠ .idle) (hdestroyed : t.point ≠ .destroyed) :
    (t.advance a g).isSome := by
  obtain ⟨send, recv, point⟩ := t
  cases point with
  | idle => exact absurd rfl hidle
  | destroyed => exact absurd rfl hdestroyed
  | setSend newSession _ _ =>
    obtain ⟨session, -, rfl, -⟩ := h
    rfl
  | setRecv newSession _ =>
    obtain ⟨-, session, -, rfl, -⟩ := h
    rfl
  | _ => rfl

lemma advance_setSend {newSession ret : Bool} {send send' : SrtpSession} {recv : Option SrtpSession}
    {sendKey recvKey : SrtpKey} (h : g.install newSession a sendKey send = (ret, send', g')) :
    advance a g ⟨some send, recv, .setSend newSession sendKey recvKey⟩ =
      some (g', ⟨some send', recv, if ret then .setRecv newSession recvKey else .resetSend⟩) := by
  simp only [advance, Option.map_some, h]

lemma advance_setRecv {newSession ret : Bool} {recv recv' : SrtpSession} {send : Option SrtpSession}
    {recvKey : SrtpKey} (h : g.install newSession a recvKey recv = (ret, recv', g')) :
    advance a g ⟨send, some recv, .setRecv newSession recvKey⟩ =
      some (g', ⟨send, some recv', if ret then .idle else .resetSend⟩) := by
  simp only [advance, Option.map_some, h]

/-- A part of a call moves the count as it moves the sessions of the transport. -/
theorem advance_spec (h : t.Keyed) (hstep : t.advance a g = some (g', t')) :
    Counts g g' t.counted t'.counted ∧ t'.Keyed := by
  obtain ⟨send, recv, point⟩ := t
  rw [counted_eq, counted_eq]
  cases point with
  | idle => cases hstep
  | destroyed => cases hstep
  | create sendKey recvKey =>
    obtain ⟨rfl, rfl⟩ := h
    cases hstep
    exact ⟨counts_of_eq rfl rfl, {}, {}, rfl, rfl, fun _ => ⟨rfl, rfl⟩⟩
  | setSend newSession sendKey recvKey =>
    obtain ⟨session, recv', rfl, rfl, hfresh⟩ := h
    have hcounts := Libsrtp.counts_install a g sendKey fun h => (hfresh h).1
    rcases hinstall : g.install newSession a sendKey session with ⟨ret, session', g₁⟩
    rw [hinstall] at hcounts
    rw [advance_setSend hinstall] at hstep
    cases hstep
    refine ⟨hcounts.congr (by dsimp only; omega), ?_⟩
    cases ret with
    | false => trivial
    | true => exact ⟨session', recv', rfl, rfl, fun h => (hfresh h).2⟩
  | setRecv newSession recvKey =>
    obtain ⟨send', session, rfl, rfl, hfresh⟩ := h
    have hcounts := Libsrtp.counts_install a g recvKey hfresh
    rcases hinstall : g.install newSession a recvKey session with ⟨ret, session', g₁⟩
    rw [hinstall] at hcounts
    rw [advance_setRecv hinstall] at hstep
    cases hstep
    refine ⟨hcounts.congr (by dsimp only; omega), ?_⟩
    cases ret <;> trivial
  | resetSend =>
    cases hstep
    exact ⟨(Libsrtp.counts_destroy send).congr (by simp [Pc.counted]), rfl⟩
  | resetRecv =>
    obtain rfl : send = none := h
    cases hstep
    exact ⟨(Libsrtp.counts_destroy recv).congr (by simp [Pc.counted]), rfl⟩
  | destroyRecv =>
    cases hstep
    exact ⟨(Libsrtp.counts_destroy recv).congr (by simp [Pc.counted]; omega), rfl⟩
  | destroySend =>
    obtain rfl : recv = none := h
    cases hstep
    exact ⟨(Libsrtp.counts_destroy send).congr (by simp [Pc.counted]), rfl, rfl⟩

end SrtpTransport

/-! ## Runs -/

lemma sum_map_set {α : Type*} {f : α → Nat} {l : List α} {k : Nat} {x y : α}
    (h : l[k]? = some x) : ((l.set k y).map f).sum + f x = (l.map f).sum + f y := by
  induction l generalizing k with
  | nil => cases h
  | cons z l ih =>
    cases k with
    | zero =>
      cases h
      simp only [List.set_cons_zero, List.map_cons, List.sum_cons]
      omega
    | succ k =>
      have htail := ih h
      simp only [List.set_cons_succ, List.map_cons, List.sum_cons]
      omega

namespace SrtpSystem

variable {s s' : SrtpSystem} {e : SrtpEvent}

lemma initedSessions_eq (s : SrtpSystem) :
    s.initedSessions = (s.transports.map SrtpTransport.counted).sum := by
  rw [initedSessions, List.countP_flatMap]
  rfl

/-- The count is that of the sessions that are there, and each transport is as its point says. -/
structure Inv (s : SrtpSystem) : Prop where
  usageCount : s.libsrtp.usageCount = s.initedSessions
  keyed : ∀ t ∈ s.transports, t.Keyed

lemma begin_eq_some {k : Nat} {point : SrtpTransport → SrtpPoint} (h : s.begin k point = some s') :
    ∃ t, s.transports[k]? = some t ∧ t.point = .idle ∧
      s' = { s with transports := s.transports.set k { t with point := point t } } := by
  unfold begin at h
  split at h
  · exact ⟨_, ‹_›, rfl, (Option.some.inj h).symm⟩
  · cases h

/-- Between two calls every function can be called. -/
lemma keyed_begin {t : SrtpTransport} (ht : t.Keyed) (hidle : t.point = .idle)
    (sendKey recvKey : SrtpKey) :
    SrtpTransport.Keyed { t with
      point :=
        if t.sendSession.isNone then .create sendKey recvKey
        else .setSend false sendKey recvKey } := by
  obtain ⟨send, recv, point⟩ := t
  obtain rfl : point = .idle := hidle
  have hboth : send.isSome = recv.isSome := ht
  cases send <;> cases recv
  · exact ⟨rfl, rfl⟩
  · cases hboth
  · cases hboth
  · exact ⟨_, _, rfl, rfl, fun h => nomatch h⟩

/-- The steps one by one: a new transport, the beginning of a call, a part of a call. -/
lemma step_cases (h : s.Steps e s') :
    s' = { s with transports := s.transports ++ [{}] } ∨
    (∃ (k : Nat) (t : SrtpTransport) (point : SrtpPoint), s.transports[k]? = some t ∧
      s' = { s with transports := s.transports.set k { t with point } } ∧
      (t.Keyed → SrtpTransport.Keyed { t with point })) ∨
    ∃ (k : Nat) (a : LibsrtpAnswers) (t : SrtpTransport) (g : Libsrtp) (t' : SrtpTransport),
      s.transports[k]? = some t ∧ t.advance a s.libsrtp = some (g, t') ∧
      s' = ⟨g, s.transports.set k t'⟩ := by
  unfold Steps step at h
  cases e with
  | new => exact Or.inl (Option.some.inj h).symm
  | setRtpParams k sendKey recvKey =>
    obtain ⟨t, ht, hidle, rfl⟩ := begin_eq_some h
    exact Or.inr (Or.inl ⟨k, t, _, ht, rfl, fun hkeyed => keyed_begin hkeyed hidle _ _⟩)
  | resetParams k =>
    obtain ⟨t, ht, -, rfl⟩ := begin_eq_some h
    exact Or.inr (Or.inl ⟨k, t, _, ht, rfl, fun _ => trivial⟩)
  | delete k =>
    obtain ⟨t, ht, -, rfl⟩ := begin_eq_some h
    exact Or.inr (Or.inl ⟨k, t, _, ht, rfl, fun _ => trivial⟩)
  | advance k a =>
    obtain ⟨t, ht, hadvance⟩ := Option.bind_eq_some_iff.mp h
    obtain ⟨⟨g, t'⟩, hadvance, hs'⟩ := Option.map_eq_some_iff.mp hadvance
    exact Or.inr (Or.inr ⟨k, a, t, g, t', ht, hadvance, hs'.symm⟩)

/-- A step moves the count as it moves the sessions. -/
lemma counts_step (hi : s.Inv) (h : s.Steps e s') :
    Counts s.libsrtp s'.libsrtp s.initedSessions s'.initedSessions := by
  rw [initedSessions_eq, initedSessions_eq]
  rcases step_cases h with rfl | ⟨k, t, point, ht, rfl, -⟩ | ⟨k, a, t, g, t', ht, hadvance, rfl⟩
  · rw [List.map_append, List.sum_append]
    exact counts_of_eq rfl rfl
  · have hsum := sum_map_set (f := SrtpTransport.counted) (y := { t with point }) ht
    have hsame : SrtpTransport.counted { t with point } = t.counted := rfl
    exact (counts_of_eq (n := 0) rfl rfl).congr (by dsimp only; omega)
  · have hsum := sum_map_set (f := SrtpTransport.counted) (y := t') ht
    obtain ⟨hcounts, -⟩ :=
      SrtpTransport.advance_spec (hi.keyed t (List.mem_of_getElem? ht)) hadvance
    exact hcounts.congr (by dsimp only; omega)

theorem inv_step (hi : s.Inv) (h : s.Steps e s') : s'.Inv := by
  refine ⟨?_, ?_⟩
  · have hcount := (counts_step hi h).usageCount
    have hbefore := hi.usageCount
    omega
  · rcases step_cases h with rfl | ⟨k, t, point, ht, rfl, hkeyed⟩ |
      ⟨k, a, t, g, t', ht, hadvance, rfl⟩
    · intro t ht
      rcases List.mem_append.mp ht with ht | ht
      · exact hi.keyed t ht
      · rw [List.mem_singleton.mp ht]
        rfl
    · intro t₁ ht₁
      rcases List.mem_or_eq_of_mem_set ht₁ with ht₁ | rfl
      · exact hi.keyed t₁ ht₁
      · exact hkeyed (hi.keyed t (List.mem_of_getElem? ht))
    · intro t₁ ht₁
      rcases List.mem_or_eq_of_mem_set ht₁ with ht₁ | rfl
      · exact hi.keyed t₁ ht₁
      · exact (SrtpTransport.advance_spec (hi.keyed t (List.mem_of_getElem? ht)) hadvance).2

/-- The count is the number of sessions with `_inited`, and `srtp_shutdown` is called when the last
of them goes. -/
structure UsageBalanced (s : SrtpSystem) : Prop where
  usageCount : s.libsrtp.usageCount = s.initedSessions
  nonneg : 0 ≤ s.libsrtp.usageCount
  shutdown : ∀ e s', s.Steps e s' → s'.libsrtp.shutdowns =
    s.libsrtp.shutdowns + if s.initedSessions = 1 ∧ s'.initedSessions = 0 then 1 else 0

lemma usageBalanced_of_inv (hi : s.Inv) : s.UsageBalanced where
  usageCount := hi.usageCount
  nonneg := by
    rw [hi.usageCount]
    exact Int.natCast_nonneg _
  shutdown e s' h := by
    have hcounts := (counts_step hi h).shutdowns
    rw [hi.usageCount, (inv_step hi h).usageCount] at hcounts
    have hcast : ((s.initedSessions : Int) = 1 ∧ (s'.initedSessions : Int) = 0) ↔
        s.initedSessions = 1 ∧ s'.initedSessions = 0 := by omega
    rw [hcounts, if_congr hcast rfl rfl]

/-- The invariant holds in every state of every run. -/
lemma inv_along (es : List SrtpEvent) : Along Steps Inv {} es := by
  have hstart : Inv {} := ⟨rfl, fun _ ht => nomatch ht⟩
  exact along_of_invariant (R := Steps) (I := Inv) (fun _ _ _ => inv_step) hstart es

/-- Whatever libsrtp answers and however the threads take turns, the count is balanced. -/
theorem usageCount_balanced (es : List SrtpEvent) : Along Steps UsageBalanced {} es :=
  (inv_along es).mono fun _ => usageBalanced_of_inv

/-- No thread is ever ahead of a part that dereferences a null pointer. -/
theorem no_null_dereference (es : List SrtpEvent) :
    Along Steps (fun s => ∀ t ∈ s.transports, t.point ≠ .idle → t.point ≠ .destroyed →
      ∀ a, (t.advance a s.libsrtp).isSome) {} es :=
  (inv_along es).mono fun _ hi t ht hidle hdestroyed _ =>
    SrtpTransport.advance_isSome (hi.keyed t ht) hidle hdestroyed

end SrtpSystem

/-! ## A call on its own -/

namespace SrtpTransport

variable {sendKey recvKey : SrtpKey}

lemma install_eq (newSession : Bool) (a : LibsrtpAnswers) (key : SrtpKey) (session : SrtpSession)
    (g : Libsrtp) :
    ∃ init g', g.install newSession a key session =
      (((if newSession then SrtpSession.setKey else SrtpSession.updateKey)
          (a.keyAnswers init) key session).1,
        ((if newSession then SrtpSession.setKey else SrtpSession.updateKey)
          (a.keyAnswers init) key session).2, g') := by
  cases newSession with
  | false => exact ⟨true, g, rfl⟩
  | true =>
    simp only [Libsrtp.install, Libsrtp.setKey, if_true]
    split
    · rename_i hsome
      exact ⟨true, g, by simp [SrtpSession.setKey, hsome]⟩
    · exact ⟨_, _, rfl⟩

/-- Parts one after the other, without another thread in between. -/
def advanceAll (es : List LibsrtpAnswers) (g : Libsrtp) (t : SrtpTransport) :
    Option (Libsrtp × SrtpTransport) :=
  es.foldlM (fun (g, t) a => t.advance a g) (g, t)

lemma advanceAll_cons {t t' : SrtpTransport} {es : List LibsrtpAnswers}
    (h : t.advance a g = some (g', t')) : advanceAll (a :: es) g t = advanceAll es g' t' := by
  rw [advanceAll, List.foldlM_cons]
  simp only [h]
  rfl

/-- The sessions of a transport of the other model. -/
def ofDtlsSrtp (d : DtlsSrtpTransport) (point : SrtpPoint) : SrtpTransport :=
  ⟨d.sendSession, d.recvSession, point⟩

lemma advanceAll_reset (g : Libsrtp) (send recv : Option SrtpSession) :
    ∃ g', advanceAll [{}, {}] g ⟨send, recv, .resetSend⟩ = some (g', ⟨none, none, .idle⟩) :=
  ⟨_, rfl⟩

lemma advanceAll_installKeys (newSession : Bool) (a b : LibsrtpAnswers) (g : Libsrtp)
    (d : DtlsSrtpTransport) (sendKey recvKey : SrtpKey) (send recv : SrtpSession) :
    ∃ init init' es g',
      advanceAll es g ⟨some send, some recv, .setSend newSession sendKey recvKey⟩ =
      some (g', ofDtlsSrtp (d.installKeys newSession
        { send := a.keyAnswers init, recv := b.keyAnswers init' } sendKey recvKey send recv).2
          .idle) := by
  obtain ⟨init, g₁, hsend⟩ := install_eq newSession a sendKey send g
  obtain ⟨init', g₂, hrecv⟩ := install_eq newSession b recvKey recv g₁
  refine ⟨init, init', ?_⟩
  rcases hs : (if newSession then SrtpSession.setKey else SrtpSession.updateKey)
    (a.keyAnswers init) sendKey send with ⟨ret, send'⟩
  rcases hr : (if newSession then SrtpSession.setKey else SrtpSession.updateKey)
    (b.keyAnswers init') recvKey recv with ⟨ret', recv'⟩
  rw [hs] at hsend
  rw [hr] at hrecv
  simp only [DtlsSrtpTransport.installKeys, hs, hr]
  cases ret with
  | false =>
    obtain ⟨g', hreset⟩ := advanceAll_reset g₁ (some send') (some recv)
    exact ⟨[a, {}, {}], g', by rw [advanceAll_cons (advance_setSend hsend)]; exact hreset⟩
  | true =>
    cases ret' with
    | false =>
      obtain ⟨g', hreset⟩ := advanceAll_reset g₂ (some send') (some recv')
      refine ⟨[a, b, {}, {}], g', ?_⟩
      rw [advanceAll_cons (advance_setSend hsend)]
      exact (advanceAll_cons (advance_setRecv hrecv)).trans hreset
    | true =>
      refine ⟨[a, b], g₂, ?_⟩
      rw [advanceAll_cons (advance_setSend hsend)]
      exact advanceAll_cons (advance_setRecv hrecv)

/-- A call of `set_rtp_params` that no other thread interrupts makes of the sessions what
`DtlsSrtpTransport.setRtpParams` says. -/
theorem setRtpParams_alone (d : DtlsSrtpTransport)
    (hboth : d.sendSession.isSome = d.recvSession.isSome) (a b : LibsrtpAnswers) (g : Libsrtp) :
    ∃ init init' es g',
      advanceAll es g (ofDtlsSrtp d (if d.sendSession.isNone then .create sendKey recvKey
        else .setSend false sendKey recvKey)) =
      some (g', ofDtlsSrtp (d.setRtpParams { send := a.keyAnswers init, recv := b.keyAnswers init' }
        sendKey recvKey).2 .idle) := by
  cases hs : d.sendSession with
  | none =>
    have hr : d.recvSession = none := by simpa [hs] using hboth.symm
    have hcreate : advance {} g (ofDtlsSrtp d (.create sendKey recvKey)) =
        some (g, ⟨some {}, some {}, .setSend true sendKey recvKey⟩) := by
      rw [ofDtlsSrtp, hr]
      rfl
    obtain ⟨init, init', es, g', h⟩ :=
      advanceAll_installKeys true a b g d.createSrtpSession sendKey recvKey {} {}
    refine ⟨init, init', {} :: es, g', (advanceAll_cons hcreate).trans (h.trans ?_)⟩
    simp [DtlsSrtpTransport.setRtpParams, DtlsSrtpTransport.createSrtpSession, hs]
  | some send =>
    rw [hs, Option.isSome_some] at hboth
    obtain ⟨recv, hr⟩ := Option.isSome_iff_exists.mp hboth.symm
    obtain ⟨init, init', es, g', h⟩ :=
      advanceAll_installKeys false a b g d sendKey recvKey send recv
    refine ⟨init, init', es, g', ?_⟩
    rw [ofDtlsSrtp, hs, hr]
    refine h.trans ?_
    simp [DtlsSrtpTransport.setRtpParams, hs, hr]

end SrtpTransport

end XrtcServer.Pc
