import XrtcServer.Base.LockFreeQueue
import XrtcServer.Core.Heap

/-!
# What the two threads keep

Node `i` is the one that the `i`-th call of `produce` appended, and node 0 the one of the
constructor. `Inv s F D L` says that `first`, `divider` and `last` point to the nodes `F`, `D` and
`L`, that the nodes from `F` on are a list, and where both threads are.
-/

namespace XrtcServer.Base
open XrtcServer.Core

variable {T : Type*}

/-- The value that is not behind `last` yet. -/
def Producer.unlinked : Producer T → List T
  | .newNode t | .linkReadLast t _ | .linkWriteNext t _ _ | .advanceReadLast t
  | .advanceReadNext t _ | .advanceWriteLast t _ => [t]
  | _ => []

/-- The number of nodes behind `last`. -/
def Producer.ahead : Producer T → Nat
  | .linkReadLast _ _ | .linkWriteNext _ _ _ | .advanceReadLast _ | .advanceReadNext _ _
  | .advanceWriteLast _ _ => 1
  | _ => 0

/-- The number of links behind `last`. -/
def Producer.linked : Producer T → Nat
  | .advanceReadLast _ | .advanceReadNext _ _ | .advanceWriteLast _ _ => 1
  | _ => 0

/-- The number of nodes that `first` has left and that are not deleted yet. -/
def Producer.left : Producer T → Nat
  | .deleteTemp _ => 1
  | _ => 0

/-- What is the same before and after a step that only reads. -/
def Producer.phase (p : Producer T) : List T × Nat × Nat × Nat :=
  (p.unlinked, p.ahead, p.linked, p.left)

/-- What the producer knows about the pointers that it has read. -/
def Producer.At (F D L : Nat) : Producer T → Prop
  | .linkReadLast _ node => node = some (L + 1)
  | .linkWriteNext _ node last => node = some (L + 1) ∧ last = some L
  | .advanceReadNext _ last => last = some L
  | .advanceWriteLast _ next => next = some (L + 1)
  | .testReadDivider first => first = some F
  | .tempReadFirst => F < D
  | .popReadFirst temp => temp = some F ∧ F < D
  | .popReadNext temp first => temp = some F ∧ first = some F ∧ F < D
  | .popWriteFirst temp next => temp = some F ∧ next = some (F + 1) ∧ F < D
  | .deleteTemp temp => 0 < F ∧ temp = some (F - 1)
  | _ => True

/-- The number of values that `consume` has returned. -/
def Consumer.taken (D : Nat) : Consumer T → Nat
  | .countDown _ => D - 1
  | _ => D

/-- The value that is consumed and not returned yet. -/
def Consumer.held : Consumer T → List T
  | .countDown result => [result]
  | _ => []

/-- What the consumer knows about the pointers and the value that it has read. -/
def Consumer.At (produced : List T) (D L : Nat) : Consumer T → Prop
  | .testReadLast divider => divider = some D
  | .valueReadDivider => D < L
  | .valueReadNext divider => divider = some D ∧ D < L
  | .valueRead next => next = some (D + 1) ∧ D < L
  | .advanceReadDivider result => produced[D]? = some result ∧ D < L
  | .advanceReadNext result divider => produced[D]? = some result ∧ divider = some D ∧ D < L
  | .advanceWriteDivider result next =>
    produced[D]? = some result ∧ next = some (D + 1) ∧ D < L
  | .countDown result => 0 < D ∧ produced[D - 1]? = some result
  | _ => True

section phase
variable {p q : Producer T} (h : p.phase = q.phase)
include h

lemma Producer.unlinked_of_phase : p.unlinked = q.unlinked := congrArg Prod.fst h

lemma Producer.ahead_of_phase : p.ahead = q.ahead := congrArg (fun x => x.2.1) h

lemma Producer.linked_of_phase : p.linked = q.linked := congrArg (fun x => x.2.2.1) h

lemma Producer.left_of_phase : p.left = q.left := congrArg (fun x => x.2.2.2) h

end phase

lemma getElem?_append_of_eq_some {l : List T} {i : Nat} {v : T} (h : l[i]? = some v) (l' : List T) :
    (l ++ l')[i]? = some v := by
  rw [List.getElem?_append_left (List.getElem?_eq_some_iff.mp h).1, h]

lemma Consumer.At.mono {produced : List T} {D L L' : Nat} {c : Consumer T}
    (h : c.At produced D L) (hL : L ≤ L') (l : List T) : c.At (produced ++ l) D L' := by
  cases c with
  | idle => trivial
  | testReadDivider => trivial
  | testReadLast divider => exact h
  | valueReadDivider => exact Nat.lt_of_lt_of_le h hL
  | valueReadNext divider => exact ⟨h.1, Nat.lt_of_lt_of_le h.2 hL⟩
  | valueRead next => exact ⟨h.1, Nat.lt_of_lt_of_le h.2 hL⟩
  | advanceReadDivider result =>
    exact ⟨getElem?_append_of_eq_some h.1 l, Nat.lt_of_lt_of_le h.2 hL⟩
  | advanceReadNext result divider =>
    exact ⟨getElem?_append_of_eq_some h.1 l, h.2.1, Nat.lt_of_lt_of_le h.2.2 hL⟩
  | advanceWriteDivider result next =>
    exact ⟨getElem?_append_of_eq_some h.1 l, h.2.1, Nat.lt_of_lt_of_le h.2.2 hL⟩
  | countDown result => exact ⟨h.1, getElem?_append_of_eq_some h.2 l⟩

lemma Producer.At.mono {F D D' L : Nat} {p : Producer T} (h : p.At F D L) (hD : D ≤ D') :
    p.At F D' L := by
  cases p with
  | tempReadFirst => exact Nat.lt_of_lt_of_le h hD
  | popReadFirst temp => exact ⟨h.1, Nat.lt_of_lt_of_le h.2 hD⟩
  | popReadNext temp first => exact ⟨h.1, h.2.1, Nat.lt_of_lt_of_le h.2.2 hD⟩
  | popWriteFirst temp next => exact ⟨h.1, h.2.1, Nat.lt_of_lt_of_le h.2.2 hD⟩
  | _ => exact h

namespace LockFreeQueue

variable {s t : LockFreeQueue T} {F D L i j : Nat}

/-- The invariant between any two steps. -/
structure Inv (s : LockFreeQueue T) (F D L : Nat) : Prop where
  first : s.first = some F
  divider : s.divider = some D
  last : s.last = some L
  first_le : F ≤ D
  divider_le : D ≤ L
  allocated : s.allocated = L + 1 + s.producer.ahead
  le_length : L ≤ s.produced.length
  unlinked : s.produced.drop L = s.producer.unlinked
  live : ∀ i, (s.heap i).isSome = true ↔ F ≤ i + s.producer.left ∧ i < s.allocated
  value : ∀ i n, s.heap i = some n → 0 < i → s.produced[i - 1]? = some n.value
  next : ∀ i n, s.heap i = some n →
    n.next = if i < L + s.producer.linked then some (i + 1) else none
  address : ∀ i j, (s.heap i).isSome = true → (s.heap j).isSome = true →
    s.address i = s.address j → i = j
  returned : s.returned = s.produced.take (s.consumer.taken D)
  producer : s.producer.At F D L
  consumer : s.consumer.At s.produced D L

lemma inv_init (value : T) : Inv (init value) 0 0 0 where
  first := rfl
  divider := rfl
  last := rfl
  first_le := Nat.le_refl 0
  divider_le := Nat.le_refl 0
  allocated := rfl
  le_length := Nat.le_refl 0
  unlinked := rfl
  live i := by
    cases i with
    | zero => simp [init, Producer.left]
    | succ i => simp [init]
  value i n hn hi := by
    cases i with
    | zero => cases hi
    | succ i => cases hn
  next i n hn := by
    cases i with
    | zero =>
      cases hn
      rfl
    | succ i => cases hn
  address i j hi hj _ := by
    cases i with
    | zero =>
      cases j with
      | zero => rfl
      | succ j => cases hj
    | succ i => cases hi
  returned := rfl
  producer := trivial
  consumer := trivial

section inv
variable (h : Inv s F D L)
include h

lemma Inv.exists_node (hi : F ≤ i + s.producer.left) (hlt : i < s.allocated) :
    ∃ n, s.heap i = some n :=
  Option.isSome_iff_exists.mp ((h.live i).mpr ⟨hi, hlt⟩)

lemma Inv.load (hF : F ≤ i) (hL : i ≤ L) :
    ∃ n, s.load (some i) = .ok n ∧ (0 < i → s.produced[i - 1]? = some n.value) ∧
      n.next = if i < L + s.producer.linked then some (i + 1) else none := by
  have hallocated := h.allocated
  obtain ⟨n, hn⟩ := h.exists_node (i := i) (by omega) (by omega)
  refine ⟨n, ?_, h.value i n hn, h.next i n hn⟩
  rw [LockFreeQueue.load, hn]

lemma Inv.samePtr_iff (hFi : F ≤ i) (hi : i ≤ L) (hFj : F ≤ j) (hj : j ≤ L) :
    s.SamePtr (some i) (some j) ↔ i = j := by
  have hallocated := h.allocated
  constructor
  · exact h.address i j ((h.live i).mpr ⟨by omega, by omega⟩) ((h.live j).mpr ⟨by omega, by omega⟩)
  · rintro rfl
    rfl

lemma Inv.setProducer (p : Producer T) (hphase : p.phase = s.producer.phase) (hp : p.At F D L) :
    Inv { s with producer := p } F D L where
  first := h.first
  divider := h.divider
  last := h.last
  first_le := h.first_le
  divider_le := h.divider_le
  allocated := by
    rw [h.allocated, ← Producer.ahead_of_phase hphase]
  le_length := h.le_length
  unlinked := by
    rw [h.unlinked, ← Producer.unlinked_of_phase hphase]
  live := by
    change ∀ i, (s.heap i).isSome = true ↔ F ≤ i + p.left ∧ i < s.allocated
    rw [Producer.left_of_phase hphase]
    exact h.live
  value := h.value
  next := by
    change ∀ i n, s.heap i = some n → n.next = if i < L + p.linked then some (i + 1) else none
    rw [Producer.linked_of_phase hphase]
    exact h.next
  address := h.address
  returned := h.returned
  producer := hp
  consumer := h.consumer

lemma Inv.setConsumer (c : Consumer T) (htaken : c.taken D = s.consumer.taken D)
    (hc : c.At s.produced D L) : Inv { s with consumer := c } F D L where
  first := h.first
  divider := h.divider
  last := h.last
  first_le := h.first_le
  divider_le := h.divider_le
  allocated := h.allocated
  le_length := h.le_length
  unlinked := h.unlinked
  live := h.live
  value := h.value
  next := h.next
  address := h.address
  returned := by
    change s.returned = s.produced.take (c.taken D)
    rw [htaken]
    exact h.returned
  producer := h.producer
  consumer := hc

lemma Inv.setSize (size : Int) : Inv { s with size } F D L where
  first := h.first
  divider := h.divider
  last := h.last
  first_le := h.first_le
  divider_le := h.divider_le
  allocated := h.allocated
  le_length := h.le_length
  unlinked := h.unlinked
  live := h.live
  value := h.value
  next := h.next
  address := h.address
  returned := h.returned
  producer := h.producer
  consumer := h.consumer

lemma Inv.ofProduce (hp : s.producer = .idle) (t : T) :
    Inv { s with producer := .newNode t, produced := s.produced ++ [t] } F D L where
  first := h.first
  divider := h.divider
  last := h.last
  first_le := h.first_le
  divider_le := h.divider_le
  allocated := by
    rw [h.allocated, hp]
    rfl
  le_length := by
    rw [List.length_append]
    exact Nat.le_add_right_of_le h.le_length
  unlinked := by
    have hunlinked := h.unlinked
    rw [hp] at hunlinked
    rw [List.drop_append_of_le_length h.le_length, hunlinked]
    rfl
  live := by
    have hlive := h.live
    rw [hp] at hlive
    exact hlive
  value i n hn hi := getElem?_append_of_eq_some (h.value i n hn hi) [t]
  next := by
    have hnext := h.next
    rw [hp] at hnext
    exact hnext
  address := h.address
  returned := by
    have htaken : s.consumer.taken D ≤ D := by
      cases s.consumer <;> simp [Consumer.taken]
    rw [h.returned, List.take_append_of_le_length]
    exact htaken.trans (h.divider_le.trans h.le_length)
  producer := trivial
  consumer := h.consumer.mono (Nat.le_refl L) [t]

lemma Inv.ofNewNode {v : T} {a : Nat} (hp : s.producer = .newNode v) (ha : ¬ s.Taken a) :
    Inv { s with
      heap := Function.update s.heap s.allocated (some ⟨v, none⟩)
      address := Function.update s.address s.allocated a
      allocated := s.allocated + 1
      producer := .linkReadLast v (some s.allocated) } F D L := by
  have hallocated : s.allocated = L + 1 := by
    rw [h.allocated, hp]
    rfl
  have hunlinked := h.unlinked
  have hlive := h.live
  have hnext := h.next
  rw [hp] at hunlinked hlive hnext
  have hfree : ∀ i, (s.heap i).isSome = true → s.address i ≠ a :=
    fun i hi hai => ha ⟨i, ((hlive i).mp hi).2, hi, hai⟩
  constructor
  case first => exact h.first
  case divider => exact h.divider
  case last => exact h.last
  case first_le => exact h.first_le
  case divider_le => exact h.divider_le
  case allocated => exact congrArg (· + 1) hallocated
  case le_length => exact h.le_length
  case unlinked => exact hunlinked
  case returned => exact h.returned
  case consumer => exact h.consumer
  case producer => exact congrArg some hallocated
  case live =>
    intro i
    have hdivider := h.first_le.trans h.divider_le
    change (Function.update s.heap s.allocated (some ⟨v, none⟩) i).isSome = true ↔
      F ≤ i + 0 ∧ i < s.allocated + 1
    by_cases hi : i = s.allocated
    · rw [hi, Function.update_self]
      simp only [Option.isSome_some, true_iff]
      omega
    · rw [Function.update_of_ne hi, hlive i]
      simp only [Producer.left]
      omega
  case value =>
    intro i n hn hi
    rcases update_some_eq_some hn with ⟨rfl, rfl⟩ | ⟨-, hn⟩
    · have hget := congrArg (fun l => l[0]?) hunlinked
      rw [List.getElem?_drop] at hget
      rw [hallocated]
      exact hget
    · exact h.value i n hn hi
  case next =>
    intro i n hn
    rcases update_some_eq_some hn with ⟨rfl, rfl⟩ | ⟨-, hn⟩
    · have hle : ¬ s.allocated < L + 0 := by omega
      exact (if_neg hle).symm
    · exact hnext i n hn
  case address =>
    intro i j hi hj hij
    change Function.update s.address s.allocated a i = Function.update s.address s.allocated a j
      at hij
    by_cases hi' : i = s.allocated
    · by_cases hj' : j = s.allocated
      · rw [hi', hj']
      · have hj : (Function.update s.heap s.allocated (some ⟨v, none⟩) j).isSome = true := hj
        rw [Function.update_of_ne hj'] at hj
        rw [hi', Function.update_self, Function.update_of_ne hj'] at hij
        exact absurd hij.symm (hfree j hj)
    · have hi : (Function.update s.heap s.allocated (some ⟨v, none⟩) i).isSome = true := hi
      rw [Function.update_of_ne hi'] at hi hij
      by_cases hj' : j = s.allocated
      · rw [hj', Function.update_self] at hij
        exact absurd hij (hfree i hi)
      · have hj : (Function.update s.heap s.allocated (some ⟨v, none⟩) j).isSome = true := hj
        rw [Function.update_of_ne hj'] at hj hij
        exact h.address i j hi hj hij

lemma Inv.ofLink {v : T} {n : Node T} (hp : s.producer = .linkWriteNext v (some (L + 1)) (some L))
    (hn : s.heap L = some n) :
    Inv { s with
      heap := Function.update s.heap L (some { n with next := some (L + 1) })
      producer := .advanceReadLast v } F D L := by
  have hallocated := h.allocated
  have hunlinked := h.unlinked
  have hlive := h.live
  have hnext := h.next
  rw [hp] at hallocated hunlinked hlive hnext
  have hsome := isSome_update_some (Option.isSome_of_eq_some hn) { n with next := some (L + 1) }
  constructor
  case first => exact h.first
  case divider => exact h.divider
  case last => exact h.last
  case first_le => exact h.first_le
  case divider_le => exact h.divider_le
  case allocated => exact hallocated
  case le_length => exact h.le_length
  case unlinked => exact hunlinked
  case returned => exact h.returned
  case consumer => exact h.consumer
  case producer => trivial
  case live =>
    intro i
    rw [hsome]
    exact hlive i
  case value =>
    intro i m hm hi
    rcases update_some_eq_some hm with ⟨rfl, rfl⟩ | ⟨-, hm⟩
    · exact h.value i n hn hi
    · exact h.value i m hm hi
  case next =>
    intro i m hm
    change m.next = if i < L + 1 then some (i + 1) else none
    rcases update_some_eq_some hm with ⟨rfl, rfl⟩ | ⟨hi, hm⟩
    · rw [if_pos (Nat.lt_succ_self i)]
    · have hm : m.next = if i < L + 0 then some (i + 1) else none := hnext i m hm
      rw [hm]
      exact if_congr (by omega) rfl rfl
  case address =>
    intro i j hi hj
    rw [hsome] at hi hj
    exact h.address i j hi hj

/-- `last` is advanced: the value can be consumed. -/
lemma Inv.ofAdvance {v : T} (hp : s.producer = .advanceWriteLast v (some (L + 1))) :
    Inv { s with last := some (L + 1), producer := .countUp } F D (L + 1) := by
  have hallocated := h.allocated
  have hunlinked := h.unlinked
  have hlive := h.live
  have hnext := h.next
  rw [hp] at hallocated hunlinked hlive hnext
  have hlength := congrArg List.length hunlinked
  rw [List.length_drop] at hlength
  constructor
  case first => exact h.first
  case divider => exact h.divider
  case last => rfl
  case first_le => exact h.first_le
  case divider_le => exact Nat.le_succ_of_le h.divider_le
  case allocated => exact hallocated
  case le_length =>
    change L + 1 ≤ s.produced.length
    have hone : ([v] : List T).length = 1 := rfl
    have hlength : s.produced.length - L = 1 := hlength
    omega
  case unlinked =>
    change s.produced.drop (L + 1) = []
    rw [← List.drop_drop, hunlinked]
    rfl
  case returned => exact h.returned
  case consumer =>
    have hconsumer := h.consumer.mono (Nat.le_succ L) []
    rw [List.append_nil] at hconsumer
    exact hconsumer
  case producer => trivial
  case live => exact hlive
  case value => exact h.value
  case next => exact hnext
  case address => exact h.address

/-- `first` leaves a consumed node. -/
lemma Inv.ofPopFirst (hp : s.producer = .popWriteFirst (some F) (some (F + 1))) (hlt : F < D) :
    Inv { s with first := some (F + 1), producer := .deleteTemp (some F) } (F + 1) D L := by
  have hallocated := h.allocated
  have hunlinked := h.unlinked
  have hlive := h.live
  have hnext := h.next
  rw [hp] at hallocated hunlinked hlive hnext
  constructor
  case first => rfl
  case divider => exact h.divider
  case last => exact h.last
  case first_le => exact hlt
  case divider_le => exact h.divider_le
  case allocated => exact hallocated
  case le_length => exact h.le_length
  case unlinked => exact hunlinked
  case returned => exact h.returned
  case consumer => exact h.consumer
  case producer => exact ⟨Nat.succ_pos F, rfl⟩
  case live =>
    intro i
    rw [hlive i]
    simp only [Producer.left]
    omega
  case value => exact h.value
  case next => exact hnext
  case address => exact h.address

lemma Inv.ofDelete (hp : s.producer = .deleteTemp (some (F - 1))) (hpos : 0 < F) :
    Inv { s with heap := Function.update s.heap (F - 1) none, producer := .testReadFirst } F D L := by
  have hallocated := h.allocated
  have hunlinked := h.unlinked
  have hlive := h.live
  have hnext := h.next
  rw [hp] at hallocated hunlinked hlive hnext
  constructor
  case first => exact h.first
  case divider => exact h.divider
  case last => exact h.last
  case first_le => exact h.first_le
  case divider_le => exact h.divider_le
  case allocated => exact hallocated
  case le_length => exact h.le_length
  case unlinked => exact hunlinked
  case returned => exact h.returned
  case consumer => exact h.consumer
  case producer => trivial
  case live =>
    intro i
    change (Function.update s.heap (F - 1) none i).isSome = true ↔ F ≤ i + 0 ∧ i < s.allocated
    rw [isSome_update_none, hlive i]
    simp only [Producer.left]
    omega
  case value => exact fun i n hn => h.value i n (update_none_eq_some hn).2
  case next => exact fun i n hn => hnext i n (update_none_eq_some hn).2
  case address =>
    intro i j hi hj
    exact h.address i j (isSome_update_none.mp hi).2 (isSome_update_none.mp hj).2

/-- `divider` is advanced: the node before it is consumed. -/
lemma Inv.ofDivider {r : T} (hc : s.consumer = .advanceWriteDivider r (some (D + 1)))
    (hr : s.produced[D]? = some r) (hlt : D < L) :
    Inv { s with divider := some (D + 1), consumer := .countDown r } F (D + 1) L where
  first := h.first
  divider := rfl
  last := h.last
  first_le := Nat.le_succ_of_le h.first_le
  divider_le := hlt
  allocated := h.allocated
  le_length := h.le_length
  unlinked := h.unlinked
  live := h.live
  value := h.value
  next := h.next
  address := h.address
  returned := by
    rw [h.returned, hc]
    rfl
  producer := h.producer.mono (Nat.le_succ D)
  consumer := ⟨Nat.succ_pos D, hr⟩

lemma Inv.ofReturn {r : T} (hc : s.consumer = .countDown r) (hr : s.produced[D - 1]? = some r)
    (hpos : 0 < D) (size : Int) :
    Inv { s with size, consumer := .idle, returned := s.returned ++ [r] } F D L where
  first := h.first
  divider := h.divider
  last := h.last
  first_le := h.first_le
  divider_le := h.divider_le
  allocated := h.allocated
  le_length := h.le_length
  unlinked := h.unlinked
  live := h.live
  value := h.value
  next := h.next
  address := h.address
  returned := by
    have hD : D = D - 1 + 1 := by omega
    change s.returned ++ [r] = s.produced.take D
    rw [h.returned, hc, hD, List.take_add_one, hr]
    rfl
  producer := h.producer
  consumer := trivial

end inv

end LockFreeQueue

/-- A bound for the steps that the producer has left in its call, with `m` nodes from `first` to
`last`. -/
def Producer.work (m : Nat) : Producer T → Nat
  | .idle => 0
  | .newNode _ => 7 * m + 16
  | .linkReadLast _ _ => 7 * m + 15
  | .linkWriteNext _ _ _ => 7 * m + 14
  | .advanceReadLast _ => 7 * m + 13
  | .advanceReadNext _ _ => 7 * m + 12
  | .advanceWriteLast _ _ => 7 * m + 11
  | .countUp => 7 * m + 3
  | .testReadFirst => 7 * m + 2
  | .testReadDivider _ => 7 * m + 1
  | .tempReadFirst => 7 * m
  | .popReadFirst _ => 7 * m - 1
  | .popReadNext _ _ => 7 * m - 2
  | .popWriteFirst _ _ => 7 * m - 3
  | .deleteTemp _ => 7 * m + 3

namespace LockFreeQueue

variable {s t : LockFreeQueue T} {F D L : Nat} {r : Except Fault (LockFreeQueue T)}

/-- A step of the producer meets no deleted node, keeps the invariant and comes closer to the end of
the call. -/
lemma Inv.producerStep (h : Inv s F D L) {a : Nat} (hs : s.producerStep a = some r) :
    ∃ t F' L', r = .ok t ∧ Inv t F' D L' ∧
      t.producer.work (L' - F') < s.producer.work (L - F) := by
  have hFD := h.first_le
  have hDL := h.divider_le
  have hat := h.producer
  cases hp : s.producer with
  | idle =>
    rw [LockFreeQueue.producerStep, hp] at hs
    cases hs
  | newNode v =>
    rw [LockFreeQueue.producerStep, hp] at hs
    dsimp only at hs
    split at hs
    · cases hs
    · rename_i ha
      cases hs
      exact ⟨_, F, L, rfl, h.ofNewNode hp ha, Nat.lt_succ_self _⟩
  | linkReadLast v node =>
    rw [LockFreeQueue.producerStep, hp] at hs
    rw [hp] at hat
    cases hs
    refine ⟨_, F, L, rfl, h.setProducer _ ?_ ⟨hat, h.last⟩, Nat.lt_succ_self _⟩
    rw [hp]
    rfl
  | linkWriteNext v node last =>
    rw [LockFreeQueue.producerStep, hp] at hs
    rw [hp] at hat
    obtain ⟨rfl, rfl⟩ := hat
    have hallocated := h.allocated
    obtain ⟨n, hn⟩ := h.exists_node (i := L) (by omega) (by omega)
    dsimp only [storeNext] at hs
    rw [hn] at hs
    cases hs
    exact ⟨_, F, L, rfl, h.ofLink hp hn, Nat.lt_succ_self _⟩
  | advanceReadLast v =>
    rw [LockFreeQueue.producerStep, hp] at hs
    cases hs
    refine ⟨_, F, L, rfl, h.setProducer _ ?_ h.last, Nat.lt_succ_self _⟩
    rw [hp]
    rfl
  | advanceReadNext v last =>
    rw [LockFreeQueue.producerStep, hp] at hs
    rw [hp] at hat
    obtain rfl : last = some L := hat
    obtain ⟨n, hload, -, hnext⟩ := h.load (hFD.trans hDL) (Nat.le_refl L)
    have hlt : L < L + s.producer.linked := by
      rw [hp]
      exact Nat.lt_succ_self L
    rw [if_pos hlt] at hnext
    dsimp only at hs
    rw [hload] at hs
    cases hs
    refine ⟨_, F, L, rfl, h.setProducer _ ?_ hnext, Nat.lt_succ_self _⟩
    rw [hp]
    rfl
  | advanceWriteLast v next =>
    rw [LockFreeQueue.producerStep, hp] at hs
    rw [hp] at hat
    obtain rfl : next = some (L + 1) := hat
    cases hs
    refine ⟨_, F, L + 1, rfl, h.ofAdvance hp, ?_⟩
    change 7 * (L + 1 - F) + 3 < 7 * (L - F) + 11
    omega
  | countUp =>
    rw [LockFreeQueue.producerStep, hp] at hs
    cases hs
    refine ⟨_, F, L, rfl, (h.setSize (s.size + 1)).setProducer .testReadFirst ?_ trivial,
      Nat.lt_succ_self _⟩
    rw [hp]
    rfl
  | testReadFirst =>
    rw [LockFreeQueue.producerStep, hp] at hs
    cases hs
    refine ⟨_, F, L, rfl, h.setProducer _ ?_ h.first, Nat.lt_succ_self _⟩
    rw [hp]
    rfl
  | testReadDivider first =>
    rw [LockFreeQueue.producerStep, hp] at hs
    rw [hp] at hat
    obtain rfl : first = some F := hat
    dsimp only at hs
    split at hs
    · cases hs
      refine ⟨_, F, L, rfl, h.setProducer .idle ?_ trivial, Nat.succ_pos _⟩
      rw [hp]
      rfl
    · rename_i hne
      cases hs
      rw [h.divider, h.samePtr_iff (Nat.le_refl F) (hFD.trans hDL) hFD hDL] at hne
      refine ⟨_, F, L, rfl, h.setProducer .tempReadFirst ?_ (Nat.lt_of_le_of_ne hFD hne),
        Nat.lt_succ_self _⟩
      rw [hp]
      rfl
  | tempReadFirst =>
    rw [LockFreeQueue.producerStep, hp] at hs
    rw [hp] at hat
    have hlt : F < D := hat
    cases hs
    refine ⟨_, F, L, rfl, h.setProducer _ ?_ ⟨h.first, hlt⟩, ?_⟩
    · rw [hp]
      rfl
    change 7 * (L - F) - 1 < 7 * (L - F)
    omega
  | popReadFirst temp =>
    rw [LockFreeQueue.producerStep, hp] at hs
    rw [hp] at hat
    obtain ⟨htemp, hlt⟩ := hat
    cases hs
    refine ⟨_, F, L, rfl, h.setProducer _ ?_ ⟨htemp, h.first, hlt⟩, ?_⟩
    · rw [hp]
      rfl
    change 7 * (L - F) - 2 < 7 * (L - F) - 1
    omega
  | popReadNext temp first =>
    rw [LockFreeQueue.producerStep, hp] at hs
    rw [hp] at hat
    obtain ⟨htemp, rfl, hlt⟩ := hat
    obtain ⟨n, hload, -, hnext⟩ := h.load (Nat.le_refl F) (hFD.trans hDL)
    rw [if_pos (by omega)] at hnext
    dsimp only at hs
    rw [hload] at hs
    cases hs
    refine ⟨_, F, L, rfl, h.setProducer _ ?_ ⟨htemp, hnext, hlt⟩, ?_⟩
    · rw [hp]
      rfl
    change 7 * (L - F) - 3 < 7 * (L - F) - 2
    omega
  | popWriteFirst temp next =>
    rw [LockFreeQueue.producerStep, hp] at hs
    rw [hp] at hat
    obtain ⟨rfl, rfl, hlt⟩ := hat
    cases hs
    refine ⟨_, F + 1, L, rfl, h.ofPopFirst hp hlt, ?_⟩
    change 7 * (L - (F + 1)) + 3 < 7 * (L - F) - 3
    omega
  | deleteTemp temp =>
    rw [LockFreeQueue.producerStep, hp] at hs
    rw [hp] at hat
    obtain ⟨hpos, rfl⟩ := hat
    have hallocated := h.allocated
    have hleft : s.producer.left = 1 := by
      rw [hp]
      rfl
    obtain ⟨n, hn⟩ := h.exists_node (i := F - 1) (by omega) (by omega)
    dsimp only [delete] at hs
    rw [hn] at hs
    cases hs
    exact ⟨_, F, L, rfl, h.ofDelete hp hpos, Nat.lt_succ_self _⟩

lemma Inv.consumerStep (h : Inv s F D L) (hs : s.consumerStep = some r) :
    ∃ t D', r = .ok t ∧ Inv t F D' L ∧ t.producer = s.producer := by
  have hFD := h.first_le
  have hDL := h.divider_le
  have hat := h.consumer
  cases hc : s.consumer with
  | idle =>
    rw [LockFreeQueue.consumerStep, hc] at hs
    cases hs
  | testReadDivider =>
    rw [LockFreeQueue.consumerStep, hc] at hs
    cases hs
    refine ⟨_, D, rfl, h.setConsumer _ ?_ h.divider, rfl⟩
    rw [hc]
    rfl
  | testReadLast divider =>
    rw [LockFreeQueue.consumerStep, hc] at hs
    rw [hc] at hat
    obtain rfl : divider = some D := hat
    dsimp only at hs
    split at hs
    · cases hs
      refine ⟨_, D, rfl, h.setConsumer .idle ?_ trivial, rfl⟩
      rw [hc]
      rfl
    · rename_i hne
      cases hs
      rw [h.last, h.samePtr_iff hFD hDL (hFD.trans hDL) (Nat.le_refl L)] at hne
      refine ⟨_, D, rfl, h.setConsumer .valueReadDivider ?_ (Nat.lt_of_le_of_ne hDL hne), rfl⟩
      rw [hc]
      rfl
  | valueReadDivider =>
    rw [LockFreeQueue.consumerStep, hc] at hs
    rw [hc] at hat
    cases hs
    refine ⟨_, D, rfl, h.setConsumer _ ?_ ⟨h.divider, hat⟩, rfl⟩
    rw [hc]
    rfl
  | valueReadNext divider =>
    rw [LockFreeQueue.consumerStep, hc] at hs
    rw [hc] at hat
    obtain ⟨rfl, hlt⟩ := hat
    obtain ⟨n, hload, -, hnext⟩ := h.load hFD hDL
    rw [if_pos (by omega)] at hnext
    dsimp only at hs
    rw [hload] at hs
    cases hs
    refine ⟨_, D, rfl, h.setConsumer _ ?_ ⟨hnext, hlt⟩, rfl⟩
    rw [hc]
    rfl
  | valueRead next =>
    rw [LockFreeQueue.consumerStep, hc] at hs
    rw [hc] at hat
    obtain ⟨rfl, hlt⟩ := hat
    obtain ⟨n, hload, hvalue, -⟩ := h.load (Nat.le_succ_of_le hFD) hlt
    dsimp only at hs
    rw [hload] at hs
    cases hs
    refine ⟨_, D, rfl, h.setConsumer _ ?_ ⟨hvalue (Nat.succ_pos D), hlt⟩, rfl⟩
    rw [hc]
    rfl
  | advanceReadDivider result =>
    rw [LockFreeQueue.consumerStep, hc] at hs
    rw [hc] at hat
    cases hs
    refine ⟨_, D, rfl, h.setConsumer _ ?_ ⟨hat.1, h.divider, hat.2⟩, rfl⟩
    rw [hc]
    rfl
  | advanceReadNext result divider =>
    rw [LockFreeQueue.consumerStep, hc] at hs
    rw [hc] at hat
    obtain ⟨hresult, rfl, hlt⟩ := hat
    obtain ⟨n, hload, -, hnext⟩ := h.load hFD hDL
    rw [if_pos (by omega)] at hnext
    dsimp only at hs
    rw [hload] at hs
    cases hs
    refine ⟨_, D, rfl, h.setConsumer _ ?_ ⟨hresult, hnext, hlt⟩, rfl⟩
    rw [hc]
    rfl
  | advanceWriteDivider result next =>
    rw [LockFreeQueue.consumerStep, hc] at hs
    rw [hc] at hat
    obtain ⟨hresult, rfl, hlt⟩ := hat
    cases hs
    exact ⟨_, D + 1, rfl, h.ofDivider hc hresult hlt, rfl⟩
  | countDown result =>
    rw [LockFreeQueue.consumerStep, hc] at hs
    rw [hc] at hat
    cases hs
    exact ⟨_, D, rfl, h.ofReturn hc hat.2 hat.1 _, rfl⟩

/-- A bound for the steps that the producer has left in its call. -/
def work (s : LockFreeQueue T) : Nat := s.producer.work (s.last.getD 0 - s.first.getD 0)

lemma Inv.work_eq (h : Inv s F D L) : s.work = s.producer.work (L - F) := by
  rw [work, h.last, h.first]
  rfl

lemma Inv.step (h : Inv s F D L) {e : Event T} (hs : s.step e = some r) :
    ∃ t F' D' L', r = .ok t ∧ Inv t F' D' L' ∧
      (e.isProduce = false → t.work + e.isProducer.toNat ≤ s.work) := by
  cases e with
  | produce v =>
    dsimp only [LockFreeQueue.step] at hs
    split at hs
    · rename_i hp
      cases hs
      exact ⟨_, F, D, L, rfl, h.ofProduce hp v, nofun⟩
    · cases hs
  | producer a =>
    obtain ⟨t, F', L', rfl, ht, hwork⟩ := h.producerStep hs
    refine ⟨t, F', D, L', rfl, ht, fun _ => ?_⟩
    rw [h.work_eq, ht.work_eq]
    exact hwork
  | consume =>
    dsimp only [LockFreeQueue.step] at hs
    split at hs
    · rename_i hc
      cases hs
      refine ⟨_, F, D, L, rfl, h.setConsumer .testReadDivider ?_ trivial, fun _ => Nat.le_refl _⟩
      rw [hc]
      rfl
    · cases hs
  | consumer =>
    obtain ⟨t, D', rfl, ht, hproducer⟩ := h.consumerStep hs
    refine ⟨t, F, D', L, rfl, ht, fun _ => ?_⟩
    rw [h.work_eq, ht.work_eq, hproducer]
    exact Nat.le_refl _

lemma inv_of_reachable {value : T} (h : Reachable Steps (init value) s) :
    ∃ F D L, Inv s F D L := by
  refine h.invariant (I := fun s => ∃ F D L, Inv s F D L) ⟨0, 0, 0, inv_init value⟩ ?_
  rintro s e t ⟨F, D, L, hs⟩ hstep
  obtain ⟨u, F', D', L', heq, hu, -⟩ := hs.step hstep
  cases heq
  exact ⟨F', D', L', hu⟩

lemma exists_not_taken (s : LockFreeQueue T) : ∃ a, ¬ s.Taken a := by
  have hfinite : (s.address '' {i | i < s.allocated}).Finite := (Set.finite_lt_nat _).image _
  obtain ⟨a, ha⟩ := hfinite.exists_notMem
  refine ⟨a, fun ⟨i, hi, _, haddress⟩ => ha ⟨i, hi, haddress⟩⟩

lemma Inv.exists_producerStep (h : Inv s F D L) (hp : s.producer ≠ .idle) :
    ∃ a t, Steps s (.producer a) t := by
  obtain ⟨a, ha⟩ := s.exists_not_taken
  have hsome : ∃ r, s.producerStep a = some r := by
    cases hproducer : s.producer with
    | idle => exact absurd hproducer hp
    | newNode v =>
      rw [LockFreeQueue.producerStep, hproducer]
      exact ⟨_, if_neg ha⟩
    | _ =>
      rw [LockFreeQueue.producerStep, hproducer]
      exact ⟨_, rfl⟩
  obtain ⟨r, hr⟩ := hsome
  obtain ⟨t, F', L', rfl, -, -⟩ := h.producerStep hr
  exact ⟨a, t, hr⟩

/-- The steps of the producer up to the end of its call are bounded. -/
lemma Inv.countP_le_work (h : Inv s F D L) {es : List (Event T)} (hrun : Leads Steps s es t)
    (hes : ∀ e ∈ es, e.isProduce = false) : es.countP Event.isProducer ≤ s.work := by
  have hcount : (∃ F D L, Inv t F D L) ∧ es.countP Event.isProducer + t.work ≤ s.work := by
    refine hrun.invariant (J := fun es t => (∀ e ∈ es, e.isProduce = false) →
      (∃ F D L, Inv t F D L) ∧ es.countP Event.isProducer + t.work ≤ s.work)
      (fun _ => ⟨⟨F, D, L, h⟩, by simp⟩) ?_ hes
    intro es t e u ih hstep hes
    rw [List.forall_mem_append] at hes
    obtain ⟨⟨F, D, L, ht⟩, hle⟩ := ih hes.1
    obtain ⟨v, F', D', L', heq, hv, hwork⟩ := ht.step hstep
    cases heq
    have hstepWork := hwork (hes.2 e (List.mem_singleton_self e))
    refine ⟨⟨F', D', L', hv⟩, ?_⟩
    rw [List.countP_append, List.countP_singleton]
    cases hproducer : e.isProducer <;> simp [hproducer] at hstepWork ⊢ <;> omega
  omega

/-- The values between `divider` and `last`. -/
def pending (s : LockFreeQueue T) : List T :=
  (s.produced.take (s.last.getD 0)).drop (s.divider.getD 0)

lemma Inv.pending_eq (h : Inv s F D L) : s.pending = (s.produced.take L).drop D := by
  rw [pending, h.last, h.divider]
  rfl

lemma Inv.returned_append_held (h : Inv s F D L) :
    s.returned ++ s.consumer.held = s.produced.take D := by
  have hat := h.consumer
  rw [h.returned]
  cases hc : s.consumer with
  | countDown result =>
    rw [hc] at hat
    have htake : s.produced.take (D - 1 + 1) = s.produced.take (D - 1) ++ [result] := by
      rw [List.take_add_one, hat.2]
      rfl
    rw [Nat.sub_add_cancel hat.1] at htake
    exact htake.symm
  | _ => exact List.append_nil _

/-- The queue is a first-in first-out list: what went in is what came out, what is pending and what
either thread has in its hands, in this order. -/
theorem Inv.produced_eq (h : Inv s F D L) :
    s.produced = s.returned ++ s.consumer.held ++ (s.pending ++ s.producer.unlinked) := by
  have hle : D ≤ (s.produced.take L).length := by
    rw [List.length_take, Nat.min_eq_left h.le_length]
    exact h.divider_le
  have hrest : s.pending ++ s.producer.unlinked = s.produced.drop D := by
    rw [h.pending_eq, ← h.unlinked, ← List.drop_append_of_le_length hle, List.take_append_drop]
  rw [h.returned_append_held, hrest, List.take_append_drop]

lemma Inv.pending_eq_nil (h : Inv s F D L) {divider : Ptr}
    (hc : s.consumer = .testReadLast divider) (hs : Steps s .consumer t)
    (ht : t.consumer = .idle) : s.pending = [] := by
  have hat := h.consumer
  rw [hc] at hat
  obtain rfl : divider = some D := hat
  have hsame : s.SamePtr (some D) s.last := by
    by_contra hne
    rw [Steps, LockFreeQueue.step, LockFreeQueue.consumerStep, hc] at hs
    dsimp only at hs
    rw [if_neg hne] at hs
    cases hs
    cases ht
  rw [h.last, h.samePtr_iff h.first_le h.divider_le (h.first_le.trans h.divider_le)
    (Nat.le_refl L)] at hsame
  rw [h.pending_eq, hsame]
  exact List.drop_of_length_le (List.length_take_le L _)

/-- No step touches a deleted node or dereferences a null pointer. -/
def NoFault (s : LockFreeQueue T) : Prop := ∀ e f, s.step e ≠ some (.error f)

/-- `consume` finds nothing only where every value behind which `last` has gone was returned. -/
def FindsAll (s : LockFreeQueue T) : Prop :=
  ∀ divider t, s.consumer = .testReadLast divider → Steps s .consumer t → t.consumer = .idle →
    s.produced = s.returned ++ s.producer.unlinked

/-- A call of `produce` can go on and ends after a bounded number of its steps, whatever the consumer
does in between. -/
def CallEnds (s : LockFreeQueue T) : Prop :=
  (s.producer ≠ .idle → ∃ a t, Steps s (.producer a) t) ∧
    ∀ es t, Leads Steps s es t → (∀ e ∈ es, e.isProduce = false) →
      es.countP Event.isProducer ≤ s.work

/-- In every interleaving of the steps no deleted node is touched, the values come out in the order in
which they went in and none is missed, and the cleanup loop ends. -/
theorem produced_returned {value : T} (h : Reachable Steps (init value) s) :
    s.NoFault ∧ s.returned <+: s.produced ∧ s.FindsAll ∧ s.CallEnds := by
  obtain ⟨F, D, L, hinv⟩ := inv_of_reachable h
  refine ⟨fun e f hs => ?_, ?_, fun divider t hc hs ht => ?_, hinv.exists_producerStep,
    fun es t => hinv.countP_le_work⟩
  · obtain ⟨t, F', D', L', heq, -, -⟩ := hinv.step hs
    cases heq
  · rw [hinv.produced_eq, List.append_assoc]
    exact List.prefix_append _ _
  · have hproduced := hinv.produced_eq
    have hheld : s.consumer.held = [] := by
      rw [hc]
      rfl
    rwa [hinv.pending_eq_nil hc hs ht, hheld, List.append_nil, List.nil_append] at hproduced

/-- The second call of `produce` deletes the node that the first call left behind. -/
def sampleEvents : List (Event Nat) :=
  [.produce 7, .producer 1, .consume, .consumer, .consumer] ++ List.replicate 8 (.producer 0) ++
    [.consume] ++ List.replicate 9 .consumer ++ [.produce 8] ++ List.replicate 14 (.producer 2)

def sampleQueue : LockFreeQueue Nat := (sampleEvents.foldlM next (init 0)).getD (init 0)

theorem sampleQueue_returned :
    sampleQueue.returned = [7] ∧ sampleQueue.NoFault ∧
      sampleQueue.returned <+: sampleQueue.produced ∧ sampleQueue.FindsAll ∧
        sampleQueue.CallEnds := by
  have hrun : sampleEvents.foldlM next (init 0) = some sampleQueue := rfl
  exact ⟨rfl, produced_returned (leads_of_foldlM (fun _ _ _ => steps_of_next) hrun).reachable⟩

end LockFreeQueue

end XrtcServer.Base
