import XrtcServer.Ice.Selection
import Mathlib.Algebra.Ring.Int.Defs

/-!
# When a connection stops being writable

`update_state` compares the clock with deadlines that it computes from the send times of the
unanswered pings. One of them passes through an `int`, so that with a clock beyond `2 ^ 31`
milliseconds a connection may be given up too early or too late. The file says exactly when.
-/

namespace XrtcServer.Ice
open XrtcServer.Base XrtcServer.Core IceTransportChannel

variable {ch : IceTransportChannel} {p q : ConnPtr} {c : IceConnection} {now : Int}
  {deadline deadline' : Int → Int} {state : WriteState} {times : List Int}

/-- What becomes of a write state with unanswered pings of these times, where `deadline` gives the
end of the waiting time for the response to the fifth. -/
def nextWriteState (deadline : Int → Int) (state : WriteState) (times : List Int) (now : Int) :
    WriteState :=
  let state :=
    if state = .stateWritable ∧ times[4]?.any (fun s => now > deadline s) ∧
        times[0]?.any (fun s => now > s + 5000) then .stateWriteUnreliable
    else state
  if (state = .stateWriteUnreliable ∨ state = .stateWriteInit) ∧
      times[0]?.any (fun s => now > s + 15000) then .stateWriteTimeout
  else state

/-- The deadline in exact integers. -/
def exactDeadline (rtt sentTime : Int) : Int := sentTime + min (max (2 * rtt) 100) 60000

/-- The deadline with the two conversions to `int` on the way. -/
def intDeadline (rtt sentTime : Int) : Int :=
  toInt (sentTime + min (max (toInt (2 * rtt)) 100) 60000)

namespace IceConnection

def sentTimes (c : IceConnection) : List Int := c.pingsSinceLastResponse.map SentPing.sentTime

lemma responseTime_eq (c : IceConnection) :
    c.responseTime = min (max (toInt (2 * c.rtt)) 100) 60000 := by
  unfold responseTime minRtt maxRtt
  dsimp only
  split_ifs <;> omega

lemma tooManyPingFails_eq (c : IceConnection) (now : Int) :
    c.tooManyPingFails connectionWriteConnectFails c.responseTime now =
      c.sentTimes[4]?.any fun s => now > intDeadline c.rtt s := by
  unfold tooManyPingFails sentTimes
  rw [List.getElem?_map, show connectionWriteConnectFails - 1 = 4 from rfl]
  cases c.pingsSinceLastResponse[4]? with
  | none => rfl
  | some ping =>
    rw [Option.map_some, Option.any_some, responseTime_eq]
    rfl

lemma tooLongWithoutResponse_eq (c : IceConnection) (minTime now : Int) :
    c.tooLongWithoutResponse minTime now =
      c.sentTimes[0]?.any fun s => now > s + minTime := by
  unfold tooLongWithoutResponse sentTimes
  cases c.pingsSinceLastResponse <;> rfl

lemma SameButSelected.writeState {c d : IceConnection} (h : SameButSelected c d) :
    d.writeState = c.writeState := by
  obtain ⟨b, rfl⟩ := h
  rfl

/-- The connection with another write state. -/
def withWriteState (c : IceConnection) (state : WriteState) : IceConnection :=
  { c with writeState := state }

/-- The write state after the first test of `update_state`. -/
def afterPingFails (c : IceConnection) (now : Int) : WriteState :=
  if c.writable && c.tooManyPingFails connectionWriteConnectFails c.responseTime now &&
      c.tooLongWithoutResponse connectionWriteConnectTimeout now then .stateWriteUnreliable
  else c.writeState

/-- The write state after the second test. -/
def afterTimeout (c : IceConnection) (now : Int) : WriteState :=
  if (c.writeState = .stateWriteUnreliable || c.writeState = .stateWriteInit) &&
      c.tooLongWithoutResponse connectionWriteTimeout now then .stateWriteTimeout
  else c.writeState

lemma afterTimeout_afterPingFails (c : IceConnection) (b : Bool) (now : Int) :
    ((c.withWriteState (c.afterPingFails now)).setSelected b).afterTimeout now =
      nextWriteState (intDeadline c.rtt) c.writeState c.sentTimes now := by
  have hfails : c.afterPingFails now =
      if c.writeState = .stateWritable ∧
          c.sentTimes[4]?.any (fun s => now > intDeadline c.rtt s) ∧
          c.sentTimes[0]?.any (fun s => now > s + 5000) then .stateWriteUnreliable
      else c.writeState := by
    unfold afterPingFails writable
    rw [tooManyPingFails_eq, tooLongWithoutResponse_eq, connectionWriteConnectTimeout]
    simp only [Bool.and_eq_true, decide_eq_true_eq, and_assoc]
  have htime : ((c.withWriteState (c.afterPingFails now)).setSelected b).tooLongWithoutResponse
      connectionWriteTimeout now = c.sentTimes[0]?.any fun s => now > s + connectionWriteTimeout :=
    tooLongWithoutResponse_eq c connectionWriteTimeout now
  unfold nextWriteState afterTimeout
  rw [← hfails]
  simp only [Bool.and_eq_true, Bool.or_eq_true, decide_eq_true_eq]
  rw [htime]
  rfl

end IceConnection

open IceConnection

/-- The write state that `update_state` leaves differs with the deadline only where the connection
is writable, has had no response for five seconds and is overdue by one of the deadlines alone. -/
lemma nextWriteState_eq_iff : nextWriteState deadline state times now =
      nextWriteState deadline' state times now ↔
    ¬ (state = .stateWritable ∧ times[0]?.any (fun s => now > s + 5000) = true ∧
      times[4]?.any (fun s => now > deadline s) ≠ times[4]?.any (fun s => now > deadline' s)) := by
  unfold nextWriteState
  cases state
  case stateWritable =>
    cases times[0]?.any fun s => now > s + 5000 <;>
    cases times[4]?.any fun s => now > deadline s <;>
    cases times[4]?.any fun s => now > deadline' s <;>
    cases times[0]?.any fun s => now > s + 15000 <;> simp
  all_goals simp

/-! ## The code follows the `int` deadline -/

lemma memory_setWriteState (ch : IceTransportChannel) (p q : ConnPtr) (state : WriteState)
    (now : Int) : SameButSelected
      (if q = p then (ch.memory p).withWriteState state else ch.memory q)
      ((ch.setWriteState p state now).memory q) := by
  have hmodify := memory_modify ch p q (·.withWriteState state)
  unfold setWriteState
  dsimp only
  rw [← hmodify]
  split
  · exact (sortConnectionAndUpdateState_spec _ now).memory q
  · exact .refl _

lemma memory_ite_setWriteState (b : Bool) (ch : IceTransportChannel) (p q : ConnPtr)
    (state : WriteState) (now : Int) : SameButSelected
      (if q = p then (ch.memory p).withWriteState (if b then state else (ch.memory p).writeState)
        else ch.memory q)
      ((if b then ch.setWriteState p state now else ch).memory q) := by
  cases b with
  | true => exact memory_setWriteState ch p q state now
  | false =>
    simp only [Bool.false_eq_true, if_false]
    split
    next heq =>
      subst heq
      exact .refl _
    next => exact .refl _

lemma writeState_updateReceiving (ch : IceTransportChannel) (p q : ConnPtr) (now : Int) :
    ((ch.updateReceiving p now).memory q).writeState = (ch.memory q).writeState := by
  unfold updateReceiving
  dsimp only
  split
  · rfl
  · rw [onConnectionStateChange, ((sortConnectionAndUpdateState_spec _ now).memory q).writeState,
      memory_modify]
    split
    next heq => rw [heq]
    next => rfl

lemma memory_becomeUnreliable (ch : IceTransportChannel) (p q : ConnPtr) (now : Int) :
    SameButSelected
      (if q = p then (ch.memory p).withWriteState ((ch.memory p).afterPingFails now)
        else ch.memory q) ((ch.becomeUnreliable p now).memory q) :=
  memory_ite_setWriteState _ ch p q .stateWriteUnreliable now

lemma memory_becomeTimedOut (ch : IceTransportChannel) (p q : ConnPtr) (now : Int) :
    SameButSelected
      (if q = p then (ch.memory p).withWriteState ((ch.memory p).afterTimeout now)
        else ch.memory q) ((ch.becomeTimedOut p now).memory q) :=
  memory_ite_setWriteState _ ch p q .stateWriteTimeout now

/-- The write state after `update_state`, and that of the other connections. -/
theorem writeState_updateConnectionState (ch : IceTransportChannel) (p q : ConnPtr) (now : Int) :
    ((ch.updateConnectionState p now).memory q).writeState =
      if q = p then nextWriteState (intDeadline (ch.memory p).rtt) (ch.memory p).writeState
        (ch.memory p).sentTimes now
      else (ch.memory q).writeState := by
  have hfirst := memory_becomeUnreliable ch p q now
  have hsecond := (memory_becomeTimedOut (ch.becomeUnreliable p now) p q now).writeState
  rw [updateConnectionState, writeState_updateReceiving, hsecond]
  by_cases hq : q = p
  · subst hq
    rw [if_pos rfl] at hfirst ⊢
    obtain ⟨b, hb⟩ := hfirst
    rw [if_pos rfl, hb]
    exact afterTimeout_afterPingFails (ch.memory q) b now
  · rw [if_neg hq] at hfirst ⊢
    rw [if_neg hq, hfirst.writeState]

/-- `update_state` does to the write state of the connection what the exact deadlines say, and
nothing to that of another. -/
structure UpdatesExactly (ch : IceTransportChannel) (p : ConnPtr) (now : Int) : Prop where
  writeState : ((ch.updateConnectionState p now).memory p).writeState =
    nextWriteState (exactDeadline (ch.memory p).rtt) (ch.memory p).writeState
      (ch.memory p).sentTimes now
  others : ∀ q ≠ p, ((ch.updateConnectionState p now).memory q).writeState =
    (ch.memory q).writeState

/-- The connection is writable, has had no response for five seconds, and the clock is behind one of
the deadlines for the fifth ping but not behind the other. -/
def Misjudged (c : IceConnection) (now : Int) : Prop :=
  c.writeState = .stateWritable ∧ c.sentTimes[0]?.any (fun s => now > s + 5000) = true ∧
    c.sentTimes[4]?.any (fun s => now > exactDeadline c.rtt s) ≠
      c.sentTimes[4]?.any (fun s => now > intDeadline c.rtt s)

/-- The write state follows the exact deadlines exactly where no conversion shows. -/
theorem updatesExactly_iff (ch : IceTransportChannel) (p : ConnPtr) (now : Int) :
    UpdatesExactly ch p now ↔ ¬ Misjudged (ch.memory p) now := by
  have hself := writeState_updateConnectionState ch p p now
  rw [if_pos rfl] at hself
  have hiff : UpdatesExactly ch p now ↔
      nextWriteState (exactDeadline (ch.memory p).rtt) (ch.memory p).writeState
          (ch.memory p).sentTimes now =
        nextWriteState (intDeadline (ch.memory p).rtt) (ch.memory p).writeState
          (ch.memory p).sentTimes now := by
    constructor
    · intro h
      exact h.writeState.symm.trans hself
    · intro h
      refine ⟨hself.trans h.symm, fun q hq => ?_⟩
      rw [writeState_updateConnectionState, if_neg hq]
  rw [hiff, nextWriteState_eq_iff]
  rfl

/-- A writable connection with five pings on the way, after twenty-five days of the clock. -/
def lateConnection : IceConnection where
  port := 0
  localPriority := 0
  remoteCandidate := ⟨⟨[], 0⟩, [], [], 0⟩
  writeState := .stateWritable
  pingsSinceLastResponse :=
    [⟨[], 2147480000⟩, ⟨[], 2147480900⟩, ⟨[], 2147481800⟩, ⟨[], 2147482700⟩, ⟨[], 2147483600⟩]

/-- It is given up although the response to the fifth ping has almost five seconds left. -/
theorem lateConnection_not_updatesExactly :
    ¬ UpdatesExactly (initial fun _ => lateConnection) 0 2147485001 := by
  intro h
  have hstate := h.writeState
  rw [writeState_updateConnectionState, if_pos rfl] at hstate
  revert hstate
  decide

lemma toInt_of_fits {x : Int} (hlow : -2 ^ 31 ≤ x) (hhigh : x < 2 ^ 31) : toInt x = x :=
  Int.bmod_eq_of_le hlow hhigh

/-- In the first weeks of the clock nothing is misjudged. -/
theorem updatesExactly_of_small (ch : IceTransportChannel) (p : ConnPtr) (now : Int)
    (hrtt : -2 ^ 30 ≤ (ch.memory p).rtt ∧ (ch.memory p).rtt < 2 ^ 30)
    (htimes : ∀ s ∈ (ch.memory p).sentTimes, -2 ^ 31 ≤ s ∧ s + 60000 < 2 ^ 31) :
    UpdatesExactly ch p now := by
  rw [updatesExactly_iff]
  rintro ⟨-, -, hne⟩
  cases hs : (ch.memory p).sentTimes[4]? with
  | none =>
    rw [hs] at hne
    exact hne rfl
  | some s =>
    have hbound := htimes s (List.mem_of_getElem? hs)
    have hsame : exactDeadline (ch.memory p).rtt s = intDeadline (ch.memory p).rtt s := by
      unfold exactDeadline intDeadline
      rw [toInt_of_fits (x := 2 * (ch.memory p).rtt) (by omega) (by omega),
        toInt_of_fits (by omega) (by omega)]
    rw [hs, Option.any_some, Option.any_some, hsame] at hne
    exact hne rfl

end XrtcServer.Ice
