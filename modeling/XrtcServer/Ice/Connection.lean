import XrtcServer.Core.StableSort
import XrtcServer.Ice.SocketAddress

/-!
# ICE connections

The state of one `IceConnection`, the queries that other objects ask it, and the order in which
`IceController` ranks connections. What a connection does to itself and reports to its channel is
in `XrtcServer.Ice.Channel`.
-/

namespace XrtcServer.Ice
open XrtcServer.Base XrtcServer.Core

/-- The identifier of a STUN transaction. -/
abbrev TransactionId := Bytes

structure IceParameters where
  iceUfrag : Bytes
  icePwd : Bytes
  deriving DecidableEq, Repr

/-- The fields of a remote candidate that are read after it was built. -/
structure Candidate where
  address : SocketAddress
  username : Bytes
  password : Bytes
  priority : UInt32
  deriving DecidableEq, Repr

inductive WriteState
  | stateWritable
  | stateWriteUnreliable
  | stateWriteInit
  | stateWriteTimeout
  deriving DecidableEq, Repr

/-- The value of the enumerator, which the code tests as a boolean. -/
def WriteState.toNat : WriteState → Nat
  | .stateWritable => 0
  | .stateWriteUnreliable => 1
  | .stateWriteInit => 2
  | .stateWriteTimeout => 3

inductive IceCandidatePairState
  | waiting
  | inProgress
  | succeeded
  | failed
  deriving DecidableEq, Repr

structure SentPing where
  id : TransactionId
  sentTime : Int
  deriving DecidableEq, Repr

def weakPingInterval : Int := 48
def strongPingInterval : Int := 480
def stablingConnectionPingInterval : Int := 900
def stableConnectionPingInterval : Int := 2500
def minPingsAtWeakPingInterval : Nat := 3
def weakConnectionReceiveTimeout : Int := 2500
def connectionWriteConnectFails : Nat := 5
def connectionWriteConnectTimeout : Int := 5000
def connectionWriteTimeout : Int := 15000
def rttRatio : Int := 3
def minRtt : Int := 100
def maxRtt : Int := 60000
def kMinImprovement : Int := 10

/-- The conversion of an `int64_t` to `int`, and what a product of `int`s comes to. -/
def toInt (x : Int) : Int := x.bmod (2 ^ 32)

/-- An `IceConnection` on the port number `port`, whose first candidate has the priority
`localPriority`. `requests` maps the transactions of `StunRequestManager` to their send times. -/
structure IceConnection where
  port : Nat
  localPriority : UInt32
  remoteCandidate : Candidate
  writeState : WriteState := .stateWriteInit
  receiving : Bool := false
  selected : Bool := false
  lastPingSent : Int := 0
  lastPingReceived : Int := 0
  lastPingResponseReceived : Int := 0
  lastDataReceived : Int := 0
  numPingsSent : Nat := 0
  pingsSinceLastResponse : List SentPing := []
  requests : TransactionId → Option Int := fun _ => none
  rtt : Int := 3000
  rttSamples : Nat := 0
  state : IceCandidatePairState := .waiting

namespace IceConnection

def writable (c : IceConnection) : Bool := c.writeState = .stateWritable

def weak (c : IceConnection) : Bool := !(c.writable && c.receiving)

def active (c : IceConnection) : Bool := c.writeState ≠ .stateWriteTimeout

def lastReceived (c : IceConnection) : Int :=
  max (max c.lastPingReceived c.lastPingResponseReceived) c.lastDataReceived

def setSelected (value : Bool) (c : IceConnection) : IceConnection := { c with selected := value }

/-- The value that `update_receiving` computes before it compares. -/
def computeReceiving (c : IceConnection) (now : Int) : Bool :=
  if c.lastPingSent < c.lastPingResponseReceived then true
  else c.lastReceived > 0 && now < c.lastReceived + weakConnectionReceiveTimeout

def tooManyPingFails (c : IceConnection) (maxPings : Nat) (rtt now : Int) : Bool :=
  match c.pingsSinceLastResponse[maxPings - 1]? with
  | none => false
  | some p => now > toInt (p.sentTime + rtt)

def tooLongWithoutResponse (c : IceConnection) (minTime now : Int) : Bool :=
  match c.pingsSinceLastResponse with
  | [] => false
  | p :: _ => now > p.sentTime + minTime

def missResponse (c : IceConnection) (now : Int) : Bool :=
  match c.pingsSinceLastResponse with
  | [] => false
  | p :: _ => toInt (now - p.sentTime) > toInt (2 * c.rtt)

def stable (c : IceConnection) (now : Int) : Bool :=
  c.rttSamples > rttRatio + 1 && !c.missResponse now

/-- The waiting time that `update_state` allows a response. -/
def responseTime (c : IceConnection) : Int :=
  let rtt := toInt (2 * c.rtt)
  if rtt < minRtt then minRtt else if rtt > maxRtt then maxRtt else rtt

/-- The pair priority. The doubled maximum is computed in 32 bits. -/
def priority (c : IceConnection) : UInt64 :=
  let g := c.localPriority
  let d := c.remoteCandidate.priority
  (min g d).toUInt64 <<< 32 + (2 * max g d).toUInt64 + (if g > d then 1 else 0)

/-- `_compare_connections`: positive where `a` is better, negative where `b` is. -/
def compareConnections (a b : IceConnection) : Int :=
  if a.writable && !b.writable then 1
  else if !a.writable && b.writable then -1
  else if a.writeState.toNat != 0 && b.writeState.toNat == 0 then 1
  else if a.writeState.toNat == 0 && b.writeState.toNat != 0 then -1
  else if a.receiving && !b.receiving then 1
  else if !a.receiving && b.receiving then -1
  else if a.priority > b.priority then 1
  else if a.priority < b.priority then -1
  else 0

/-- The comparator that `sort_and_switch_connection` sorts by. -/
def better (a b : IceConnection) : Bool :=
  let cmp := compareConnections a b
  if cmp ≠ 0 then cmp > 0 else a.rtt < b.rtt

end IceConnection

/-- What the comparison reads of a connection. The priority and the round trip time are any. -/
structure Standing where
  writeState : WriteState
  receiving : Bool
  priority : UInt64
  rtt : Int
  deriving DecidableEq, Repr

namespace Standing

def writable (a : Standing) : Bool := a.writeState = .stateWritable

/-- `_compare_connections` on what it reads. -/
def compareConnections (a b : Standing) : Int :=
  if a.writable && !b.writable then 1
  else if !a.writable && b.writable then -1
  else if a.writeState.toNat != 0 && b.writeState.toNat == 0 then 1
  else if a.writeState.toNat == 0 && b.writeState.toNat != 0 then -1
  else if a.receiving && !b.receiving then 1
  else if !a.receiving && b.receiving then -1
  else if a.priority > b.priority then 1
  else if a.priority < b.priority then -1
  else 0

/-- The comparator on what it reads. -/
def better (a b : Standing) : Bool :=
  let cmp := compareConnections a b
  if cmp ≠ 0 then cmp > 0 else a.rtt < b.rtt

lemma writeState_toNat_eq_zero (a : Standing) : (a.writeState.toNat == 0) = a.writable := by
  unfold writable
  cases a.writeState <;> rfl

/-- The order as a chain of keys: two of the tests of `_compare_connections` never decide. -/
lemma better_eq : better =
    thenBy (byKey fun a => !a.writable) (thenBy (byKey fun a => !a.receiving)
      (thenBy (byKey fun a => OrderDual.toDual a.priority.toNat) (byKey rtt))) := by
  funext a b
  unfold better compareConnections thenBy byKey
  simp only [bne, writeState_toNat_eq_zero, gt_iff_lt, UInt64.lt_iff_toNat_lt,
    OrderDual.toDual_lt_toDual]
  rcases lt_trichotomy a.priority.toNat b.priority.toNat with hp | hp | hp <;>
    rcases Bool.eq_false_or_eq_true a.writable with haw | haw <;>
    rcases Bool.eq_false_or_eq_true b.writable with hbw | hbw <;>
    rcases Bool.eq_false_or_eq_true a.receiving with har | har <;>
    rcases Bool.eq_false_or_eq_true b.receiving with hbr | hbr <;>
    simp [haw, hbw, har, hbr, hp, hp.not_gt]

/-- The order is one a sort can use, whatever the priorities and times are. -/
theorem better_strictWeak : StrictWeak better :=
  better_eq ▸ (StrictWeak.byKey _).thenBy
    ((StrictWeak.byKey _).thenBy ((StrictWeak.byKey _).thenBy (StrictWeak.byKey _)))

end Standing

namespace IceConnection

def standing (c : IceConnection) : Standing := ⟨c.writeState, c.receiving, c.priority, c.rtt⟩

lemma writeState_toNat_eq_zero (c : IceConnection) : (c.writeState.toNat == 0) = c.writable :=
  c.standing.writeState_toNat_eq_zero

lemma better_standing (a b : IceConnection) : a.better b = a.standing.better b.standing := rfl

lemma better_eq : better =
    thenBy (byKey fun c => !c.writable) (thenBy (byKey fun c => !c.receiving)
      (thenBy (byKey fun c => OrderDual.toDual c.priority.toNat) (byKey rtt))) := by
  funext a b
  rw [better_standing, Standing.better_eq]
  rfl

/-- The order of the controller is one a sort can use. -/
theorem better_strictWeak : StrictWeak better :=
  Standing.better_strictWeak.comap standing

lemma writable_of_not_better {a b : IceConnection} (h : a.better b = false)
    (ha : a.writable = true) : b.writable = true := by
  rw [better_eq, thenBy_eq_false] at h
  by_contra hb
  rw [Bool.not_eq_true] at hb
  have hfirst := h.1
  simp [byKey, ha, hb] at hfirst

/-- Two connections that agree but for the selected flag, which no query reads. -/
def SameButSelected (c d : IceConnection) : Prop := ∃ b, d = c.setSelected b

lemma SameButSelected.refl (c : IceConnection) : SameButSelected c c := ⟨c.selected, rfl⟩

lemma SameButSelected.trans {c d e : IceConnection} (h : SameButSelected c d)
    (h' : SameButSelected d e) : SameButSelected c e := by
  obtain ⟨b, rfl⟩ := h
  obtain ⟨b', rfl⟩ := h'
  exact ⟨b', rfl⟩

/-- Two connections that the sort does not tell apart. -/
structure SameRank (c d : IceConnection) : Prop where
  writeState : d.writeState = c.writeState
  receiving : d.receiving = c.receiving
  priority : d.priority = c.priority
  rtt : d.rtt = c.rtt

lemma SameRank.refl (c : IceConnection) : SameRank c c := ⟨rfl, rfl, rfl, rfl⟩

lemma SameButSelected.sameRank {c d : IceConnection} (h : SameButSelected c d) :
    SameRank c d := by
  obtain ⟨b, rfl⟩ := h
  exact ⟨rfl, rfl, rfl, rfl⟩

lemma SameRank.better {a b a' b' : IceConnection} (ha : SameRank a a') (hb : SameRank b b') :
    a'.better b' = a.better b := by
  unfold IceConnection.better compareConnections IceConnection.writable
  rw [ha.writeState, ha.receiving, ha.priority, ha.rtt, hb.writeState, hb.receiving, hb.priority,
    hb.rtt]

/-- What a port files a connection under. -/
def key (c : IceConnection) : Nat × SocketAddress := (c.port, c.remoteCandidate.address)

lemma SameButSelected.key {c d : IceConnection} (h : SameButSelected c d) : d.key = c.key := by
  obtain ⟨b, rfl⟩ := h
  rfl

lemma SameButSelected.writable {c d : IceConnection} (h : SameButSelected c d) :
    d.writable = c.writable := by
  obtain ⟨b, rfl⟩ := h
  rfl

end IceConnection

end XrtcServer.Ice
