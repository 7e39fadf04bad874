import Mathlib.Data.Set.Finite.Basic
import Mathlib.Logic.Function.Basic
import XrtcServer.Core.Run

/-!
# The queue of one producer and one consumer

The nodes of `LockFreeQueue` from `first` to `divider` are consumed and those behind `divider` up to
`last` are pending. The producer appends and deletes what is consumed while the consumer advances
`divider`. Every read and every write of a pointer is one step.
-/

namespace XrtcServer.Base
open XrtcServer.Core

/-- A pointer: nothing, or the number of an allocation. A number is never used again, the address of a
deleted node is. -/
abbrev Ptr := Option Nat

structure Node (T : Type*) where
  value : T
  next : Ptr

/-- What an access to memory can run into. -/
inductive Fault
  | nullPointer
  | deleted
  deriving DecidableEq

/-- Where the producer is in `produce(t)`: the next step and the pointers that it has read. -/
inductive Producer (T : Type*)
  | idle
  | newNode (t : T)
  | linkReadLast (t : T) (node : Ptr)
  | linkWriteNext (t : T) (node last : Ptr)
  | advanceReadLast (t : T)
  | advanceReadNext (t : T) (last : Ptr)
  | advanceWriteLast (t : T) (next : Ptr)
  | countUp
  | testReadFirst
  | testReadDivider (first : Ptr)
  | tempReadFirst
  | popReadFirst (temp : Ptr)
  | popReadNext (temp first : Ptr)
  | popWriteFirst (temp next : Ptr)
  | deleteTemp (temp : Ptr)

/-- Where the consumer is in `consume`. -/
inductive Consumer (T : Type*)
  | idle
  | testReadDivider
  | testReadLast (divider : Ptr)
  | valueReadDivider
  | valueReadNext (divider : Ptr)
  | valueRead (next : Ptr)
  | advanceReadDivider (result : T)
  | advanceReadNext (result : T) (divider : Ptr)
  | advanceWriteDivider (result : T) (next : Ptr)
  | countDown (result : T)

structure LockFreeQueue (T : Type*) where
  /-- The nodes that are not deleted. -/
  heap : Nat → Option (Node T)
  address : Nat → Nat
  allocated : Nat
  first : Ptr
  divider : Ptr
  last : Ptr
  size : Int := 0
  producer : Producer T := .idle
  consumer : Consumer T := .idle
  /-- A ghost: the arguments of `produce`. -/
  produced : List T := []
  /-- A ghost: the results of `consume`. -/
  returned : List T := []

inductive Event (T : Type*)
  | produce (t : T)
  | producer (address : Nat)
  | consume
  | consumer

def Event.isProduce {T : Type*} : Event T → Bool
  | .produce _ => true
  | _ => false

def Event.isProducer {T : Type*} : Event T → Bool
  | .producer _ => true
  | _ => false

namespace LockFreeQueue

variable {T : Type*}

/-- The constructor, with the value `T()`. -/
def init (value : T) : LockFreeQueue T where
  heap := Function.update (fun _ => none) 0 (some ⟨value, none⟩)
  address _ := 0
  allocated := 1
  first := some 0
  divider := some 0
  last := some 0

/-- Whether two pointers compare equal. -/
def SamePtr (s : LockFreeQueue T) : Ptr → Ptr → Prop
  | some i, some j => s.address i = s.address j
  | none, none => True
  | _, _ => False

instance (s : LockFreeQueue T) (p q : Ptr) : Decidable (s.SamePtr p q) :=
  match p, q with
  | some _, some _ => inferInstanceAs (Decidable (_ = _))
  | none, none => .isTrue trivial
  | some _, none => .isFalse id
  | none, some _ => .isFalse id

/-- The address is that of a node. -/
def Taken (s : LockFreeQueue T) (a : Nat) : Prop :=
  ∃ i < s.allocated, (s.heap i).isSome ∧ s.address i = a

instance (s : LockFreeQueue T) (a : Nat) : Decidable (s.Taken a) :=
  inferInstanceAs (Decidable (∃ i < s.allocated, _))

/-- The node that a pointer points to. -/
def load (s : LockFreeQueue T) : Ptr → Except Fault (Node T)
  | none => .error .nullPointer
  | some i =>
    match s.heap i with
    | none => .error .deleted
    | some node => .ok node

/-- `p->next = next` -/
def storeNext (s : LockFreeQueue T) (p next : Ptr) : Except Fault (LockFreeQueue T) :=
  match p with
  | none => .error .nullPointer
  | some i =>
    match s.heap i with
    | none => .error .deleted
    | some node => .ok { s with heap := Function.update s.heap i (some { node with next }) }

/-- `delete p` -/
def delete (s : LockFreeQueue T) (p : Ptr) : Except Fault (LockFreeQueue T) :=
  match p with
  | none => .ok s
  | some i =>
    match s.heap i with
    | none => .error .deleted
    | some _ => .ok { s with heap := Function.update s.heap i none }

/-- The next step of the producer; `new` takes the address `a`. -/
def producerStep (s : LockFreeQueue T) (a : Nat) : Option (Except Fault (LockFreeQueue T)) :=
  match s.producer with
  | .idle => none
  | .newNode t =>
    if s.Taken a then none
    else
      some (.ok { s with
        heap := Function.update s.heap s.allocated (some ⟨t, none⟩)
        address := Function.update s.address s.allocated a
        allocated := s.allocated + 1
        producer := .linkReadLast t (some s.allocated) })
  | .linkReadLast t node => some (.ok { s with producer := .linkWriteNext t node s.last })
  | .linkWriteNext t node last =>
    some ((s.storeNext last node).map fun s => { s with producer := .advanceReadLast t })
  | .advanceReadLast t => some (.ok { s with producer := .advanceReadNext t s.last })
  | .advanceReadNext t last =>
    some ((s.load last).map fun n => { s with producer := .advanceWriteLast t n.next })
  | .advanceWriteLast _ next => some (.ok { s with last := next, producer := .countUp })
  | .countUp => some (.ok { s with size := s.size + 1, producer := .testReadFirst })
  | .testReadFirst => some (.ok { s with producer := .testReadDivider s.first })
  | .testReadDivider first =>
    some (.ok { s with producer := if s.SamePtr first s.divider then .idle else .tempReadFirst })
  | .tempReadFirst => some (.ok { s with producer := .popReadFirst s.first })
  | .popReadFirst temp => some (.ok { s with producer := .popReadNext temp s.first })
  | .popReadNext temp first =>
    some ((s.load first).map fun n => { s with producer := .popWriteFirst temp n.next })
  | .popWriteFirst temp next => some (.ok { s with first := next, producer := .deleteTemp temp })
  | .deleteTemp temp => some ((s.delete temp).map fun s => { s with producer := .testReadFirst })

/-- The next step of the consumer. -/
def consumerStep (s : LockFreeQueue T) : Option (Except Fault (LockFreeQueue T)) :=
  match s.consumer with
  | .idle => none
  | .testReadDivider => some (.ok { s with consumer := .testReadLast s.divider })
  | .testReadLast divider =>
    some (.ok { s with
      consumer := if s.SamePtr divider s.last then .idle else .valueReadDivider })
  | .valueReadDivider => some (.ok { s with consumer := .valueReadNext s.divider })
  | .valueReadNext divider =>
    some ((s.load divider).map fun n => { s with consumer := .valueRead n.next })
  | .valueRead next =>
    some ((s.load next).map fun n => { s with consumer := .advanceReadDivider n.value })
  | .advanceReadDivider result =>
    some (.ok { s with consumer := .advanceReadNext result s.divider })
  | .advanceReadNext result divider =>
    some ((s.load divider).map fun n => { s with consumer := .advanceWriteDivider result n.next })
  | .advanceWriteDivider result next =>
    some (.ok { s with divider := next, consumer := .countDown result })
  | .countDown result =>
    some (.ok { s with size := s.size - 1, consumer := .idle, returned := s.returned ++ [result] })

/-- One step of one thread; `none` where the thread is elsewhere. -/
def step (s : LockFreeQueue T) : Event T → Option (Except Fault (LockFreeQueue T))
  | .produce t =>
    match s.producer with
    | .idle => some (.ok { s with producer := .newNode t, produced := s.produced ++ [t] })
    | _ => none
  | .producer a => s.producerStep a
  | .consume =>
    match s.consumer with
    | .idle => some (.ok { s with consumer := .testReadDivider })
    | _ => none
  | .consumer => s.consumerStep

/-- The interleaving of both threads. -/
def Steps (s : LockFreeQueue T) (e : Event T) (t : LockFreeQueue T) : Prop :=
  s.step e = some (.ok t)

/-- A step that meets no fault. -/
def next (s : LockFreeQueue T) (e : Event T) : Option (LockFreeQueue T) :=
  (s.step e).bind Except.toOption

lemma steps_of_next {s t : LockFreeQueue T} {e : Event T} (h : s.next e = some t) :
    Steps s e t := by
  obtain ⟨r, hr, ht⟩ := Option.bind_eq_some_iff.mp h
  cases r with
  | error f => cases ht
  | ok u =>
    cases ht
    exact hr

end LockFreeQueue

end XrtcServer.Base
