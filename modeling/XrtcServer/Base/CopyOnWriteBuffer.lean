import XrtcServer.Base.Buffer
import XrtcServer.Core.Counted
import XrtcServer.Core.Run

/-!
# Copy-on-write buffers

A `CopyOnWriteBuffer` has a counted reference to a `Buffer` and shares it with its copies until one
of them is written to. `independent` says what a program sees that takes every buffer for a value of
its own, without any sharing.
-/

namespace XrtcServer.Base
open XrtcServer.Core Function

/-- The member functions called on the buffers that `V` names. -/
inductive BufferCall (V : Type*)
  /-- `CopyOnWriteBuffer(size, capacity)`, and with `size` twice `CopyOnWriteBuffer(size)`. -/
  | construct (v : V) (size capacity : Nat)
  | constructFrom (v : V) (data : Bytes) (capacity : Nat)
  /-- The copy constructor, the assignment and `SetData` of another buffer. -/
  | copy (v w : V)
  | move (v w : V)
  | swap (v w : V)
  | setData (v : V) (data : Bytes)
  | appendData (v : V) (data : Bytes)
  /-- `AppendData` of another buffer or of the buffer itself. -/
  | appendBuffer (v w : V)
  | setSize (v : V) (size : Nat)
  | ensureCapacity (v : V) (capacity : Nat)
  | clear (v : V)
  /-- A write through the pointer that `data()` has just returned. -/
  | write (v : V) (i : Nat) (data : Bytes)
  | destroy (v : V)

/-- A call, with the place of the buffer that it may allocate and what the new memory holds. -/
structure BufferEvent (V : Type*) where
  call : BufferCall V
  address : Nat
  fill : Nat → UInt8 := fun _ => 0

/-- The `CopyOnWriteBuffer`s with the `RefCountedObject<Buffer>`s that they share. -/
abbrev CopyOnWriteBuffers (V : Type*) := Counted V Buffer

namespace CopyOnWriteBuffers
variable {V : Type*} [DecidableEq V]

/-- `CloneDataIfReferenced`. -/
def cloneDataIfReferenced (s : CopyOnWriteBuffers V) (v : V) (p : Nat) (fill : Nat → UInt8)
    (newCapacity : Nat) : CopyOnWriteBuffers V :=
  match s.value v with
  | none => s
  | some b => if s.hasOneRef v then s else s.renew v p (.ofData fill b.bytes newCapacity)

def construct (s : CopyOnWriteBuffers V) (v : V) (p : Nat) (fill : Nat → UInt8)
    (size capacity : Nat) : CopyOnWriteBuffers V :=
  if 0 < size ∨ 0 < capacity then s.renew v p (.create fill size capacity) else s.assign v none

def constructFrom (s : CopyOnWriteBuffers V) (v : V) (p : Nat) (fill : Nat → UInt8) (data : Bytes)
    (capacity : Nat) : CopyOnWriteBuffers V :=
  (construct s v p fill data.length capacity).modify v (·.write 0 data)

def copy (s : CopyOnWriteBuffers V) (v w : V) : CopyOnWriteBuffers V :=
  if v = w then s else s.assign v (s.ptr w)

def setData (s : CopyOnWriteBuffers V) (v : V) (p : Nat) (fill : Nat → UInt8) (data : Bytes) :
    CopyOnWriteBuffers V :=
  match s.value v with
  | none =>
    if 0 < data.length then s.renew v p (.ofData fill data data.length) else s.assign v none
  | some b =>
    if s.hasOneRef v then s.modify v (·.setData fill data)
    else s.renew v p (.ofData fill data b.capacity)

def appendData (s : CopyOnWriteBuffers V) (v : V) (p : Nat) (fill : Nat → UInt8) (data : Bytes) :
    CopyOnWriteBuffers V :=
  match s.value v with
  | none => s.renew v p (.ofData fill data data.length)
  | some b =>
    (cloneDataIfReferenced s v p fill (max b.capacity (b.size + data.length))).modify v
      (·.appendData fill data)

/-- A buffer that is appended to itself is read after its array has been freed, if the array is its
own and has to grow. -/
def AppendsFreed (s : CopyOnWriteBuffers V) (v w : V) : Prop :=
  v = w ∧ s.hasOneRef v ∧ (s.value v).any fun b => b.capacity < b.size + b.size

instance (s : CopyOnWriteBuffers V) (v w : V) : Decidable (AppendsFreed s v w) :=
  inferInstanceAs (Decidable (_ ∧ _))

def appendBuffer (s : CopyOnWriteBuffers V) (v w : V) (p : Nat) (fill : Nat → UInt8) :
    Option (CopyOnWriteBuffers V) :=
  if AppendsFreed s v w then none
  else some (appendData s v p fill ((s.value w).elim [] Buffer.bytes))

def setSize (s : CopyOnWriteBuffers V) (v : V) (p : Nat) (fill : Nat → UInt8) (size : Nat) :
    CopyOnWriteBuffers V :=
  match s.value v with
  | none => if 0 < size then s.renew v p (.create fill size size) else s
  | some b =>
    let owned := if s.hasOneRef v then s
      else s.renew v p (.ofData fill (b.data.take (min b.size size)) (max b.capacity size))
    owned.modify v (·.setSize fill size)

def ensureCapacity (s : CopyOnWriteBuffers V) (v : V) (p : Nat) (fill : Nat → UInt8)
    (capacity : Nat) : CopyOnWriteBuffers V :=
  match s.value v with
  | none => if 0 < capacity then s.renew v p (.create fill 0 capacity) else s
  | some b =>
    if capacity ≤ b.capacity then s
    else (cloneDataIfReferenced s v p fill (max b.capacity capacity)).modify v
      (·.ensureCapacity fill capacity)

def clear (s : CopyOnWriteBuffers V) (v : V) (p : Nat) (fill : Nat → UInt8) :
    CopyOnWriteBuffers V :=
  match s.value v with
  | none => s
  | some b =>
    if s.hasOneRef v then s.modify v Buffer.clear else s.renew v p (.create fill 0 b.capacity)

/-- Without a buffer `data()` is null, and nothing can be written behind the capacity. -/
def write (s : CopyOnWriteBuffers V) (v : V) (p : Nat) (fill : Nat → UInt8) (i : Nat)
    (data : Bytes) : Option (CopyOnWriteBuffers V) :=
  match s.value v with
  | none => none
  | some b =>
    if i + data.length ≤ b.capacity then
      some ((cloneDataIfReferenced s v p fill b.capacity).modify v (·.write i data))
    else none

/-- `operator==`. -/
def equals (s : CopyOnWriteBuffers V) (v w : V) : Bool :=
  s.ptr v == s.ptr w ||
    match s.value v, s.value w with
    | some b, some b' => b.equals b'
    | _, _ => false

/-- What a call does; `none` where it touches memory that is not its own. -/
def step (s : CopyOnWriteBuffers V) (e : BufferEvent V) : Option (CopyOnWriteBuffers V) :=
  match e.call with
  | .construct v size capacity => some (construct s v e.address e.fill size capacity)
  | .constructFrom v data capacity => some (constructFrom s v e.address e.fill data capacity)
  | .copy v w => some (copy s v w)
  | .move v w => some (s.move v w)
  | .swap v w => some (s.swap v w)
  | .setData v data => some (setData s v e.address e.fill data)
  | .appendData v data => some (appendData s v e.address e.fill data)
  | .appendBuffer v w => appendBuffer s v w e.address e.fill
  | .setSize v size => some (setSize s v e.address e.fill size)
  | .ensureCapacity v capacity => some (ensureCapacity s v e.address e.fill capacity)
  | .clear v => some (clear s v e.address e.fill)
  | .write v i data => write s v e.address e.fill i data
  | .destroy v => some (s.assign v none)

/-- The allocator returns a place where nothing is. -/
def Steps (s : CopyOnWriteBuffers V) (e : BufferEvent V) (t : CopyOnWriteBuffers V) : Prop :=
  s.obj e.address = none ∧ step s e = some t

end CopyOnWriteBuffers

/-! ## Buffers as values -/

variable {V : Type*} [DecidableEq V]

/-- What a call does to the values of the buffers. -/
def BufferCall.apply (x : V → Option Contents) : BufferCall V → V → Option Contents
  | .construct v size capacity =>
    update x v (if 0 < size ∨ 0 < capacity then some (.blank size) else none)
  | .constructFrom v data capacity =>
    update x v (if 0 < data.length ∨ 0 < capacity then some (.known data) else none)
  | .copy v w =>
    if v = w then x
    else update (update x w ((x w).map .settled)) v ((x w).map .settled)
  | .move v w => update (update x w none) v (x w)
  | .swap v w => x ∘ Equiv.swap v w
  | .setData v data => update x v (if x v = none ∧ data = [] then none else some (.known data))
  | .appendData v data => update x v (some (((x v).getD {}).append (data.map some)))
  | .appendBuffer v w => update x v (some (((x v).getD {}).append ((x w).getD {}).bytes))
  | .setSize v size =>
    update x v (if x v = none ∧ size = 0 then none else some (((x v).getD {}).resize size))
  | .ensureCapacity v capacity =>
    update x v (if x v = none ∧ capacity = 0 then none else some ((x v).getD {}).settled)
  | .clear v => update x v ((x v).map fun _ => {})
  | .write v i data => update x v ((x v).map (·.overwrite i data))
  | .destroy v => update x v none

/-- The values after the calls of a run, each buffer by itself. -/
def independent (es : List (BufferEvent V)) : V → Option Contents :=
  es.foldl (fun x e => e.call.apply x) fun _ => none

/-- A buffer is there where the value is, and agrees with it. -/
def Observes : Option Buffer → Option Contents → Prop
  | none, none => True
  | some b, some c => Reads b c
  | _, _ => False

namespace CopyOnWriteBuffers

/-- The shared buffers behave as the values `x`. -/
structure Refines (s : CopyOnWriteBuffers V) (x : V → Option Contents) : Prop where
  sound : s.Sound []
  observes : ∀ v, Observes (s.value v) (x v)
  /-- What was written behind the end belongs to a buffer that is not shared. -/
  alone : ∀ v c, x v = some c → c.beyond ≠ [] → s.hasOneRef v

variable {s t : CopyOnWriteBuffers V} {x : V → Option Contents} {u v w : V} {p n i : Nat}
  {b : Buffer} {c : Contents} {f : Buffer → Buffer} {fill : Nat → UInt8} {data : Bytes}
  {xs : List (Option UInt8)}

omit [DecidableEq V] in
theorem refines_initial : Refines ({} : CopyOnWriteBuffers V) fun _ => none where
  sound := Counted.sound_initial
  observes _ := trivial
  alone _ _ hc := absurd hc (by simp)

omit [DecidableEq V] in
lemma Refines.null_or_reads (h : Refines s x) (v : V) : s.value v = none ∧ x v = none ∨
    ∃ b c, s.value v = some b ∧ x v = some c ∧ Reads b c := by
  have hobserves := h.observes v
  cases hv : s.value v with
  | none =>
    cases hx : x v with
    | none => exact Or.inl ⟨rfl, rfl⟩
    | some c => simp [hv, hx, Observes] at hobserves
  | some b =>
    cases hx : x v with
    | none => simp [hv, hx, Observes] at hobserves
    | some c =>
      rw [hv, hx] at hobserves
      exact Or.inr ⟨b, c, rfl, rfl, hobserves⟩

omit [DecidableEq V] in
lemma Refines.beyond_eq_nil (h : Refines s x) (hc : x v = some c) (hshared : ¬ s.hasOneRef v) :
    c.beyond = [] :=
  by_contra fun hne => hshared (h.alone v c hc hne)

/-! ## What the parts of a call keep -/

lemma Refines.settle (h : Refines s x) (hc : x v = some c) :
    Refines s (update x v (some c.settled)) where
  sound := h.sound
  observes u := by
    rw [update_apply]
    split
    · rename_i hu
      have hobserves := h.observes v
      rw [hc] at hobserves
      rw [hu]
      cases hv : s.value v with
      | none => simp [hv, Observes] at hobserves
      | some b =>
        rw [hv] at hobserves
        exact Reads.settled hobserves
    · exact h.observes u
  alone u c' hc' hbeyond := by
    rw [update_apply] at hc'
    split at hc'
    · cases hc'
      exact absurd rfl hbeyond
    · exact h.alone u c' hc' hbeyond

lemma Refines.renew (h : Refines s x) (hp : s.obj p = none) (hb : Reads b c) :
    Refines (s.renew v p b) (update x v (some c)) where
  sound := h.sound.renew hp
  observes u := by
    rw [h.sound.value_renew hp, update_apply]
    split
    · exact hb
    · exact h.observes u
  alone u c' hc hbeyond := by
    refine h.sound.hasOneRef_renew hp ?_
    by_cases hu : u = v
    · exact Or.inl hu
    · rw [update_of_ne hu] at hc
      exact Or.inr (h.alone u c' hc hbeyond)

lemma Refines.modify (h : Refines s x) (hone : s.hasOneRef v) (hv : s.value v = some b)
    (hb : Reads (f b) c) : Refines (s.modify v f) (update x v (some c)) where
  sound := h.sound.modify
  observes u := by
    rw [h.sound.value_modify hone, update_apply]
    split
    · rw [hv]
      exact hb
    · exact h.observes u
  alone u c' hc hbeyond := by
    rw [h.sound.modify.hasOneRef_iff, Counted.ptr_modify, ← h.sound.hasOneRef_iff]
    by_cases hu : u = v
    · rwa [hu]
    · rw [update_of_ne hu] at hc
      exact h.alone u c' hc hbeyond

lemma Refines.release (h : Refines s x) : Refines (s.assign v none) (update x v none) where
  sound := h.sound.assign (by simp)
  observes u := by
    rw [h.sound.value_assign (by simp), update_apply]
    split
    · exact trivial
    · exact h.observes u
  alone u c' hc hbeyond := by
    rw [(h.sound.assign (by simp)).hasOneRef_iff, Counted.ptr_assign]
    have hu : u ≠ v := by
      rintro rfl
      rw [update_self] at hc
      cases hc
    rw [update_of_ne hu] at hc
    obtain ⟨q, hq, hall⟩ := h.sound.hasOneRef_iff.mp (h.alone u c' hc hbeyond)
    refine ⟨q, by rw [update_of_ne hu, hq], fun z hz => ?_⟩
    have hz' : z ≠ v := by
      rintro rfl
      rw [update_self] at hz
      cases hz
    exact hall z (by rwa [update_of_ne hz'] at hz)

/-- After the clone nobody else has the buffer, and it reads as before. -/
lemma Refines.clone (h : Refines s x) (fill : Nat → UInt8) (hp : s.obj p = none)
    (hv : s.value v = some b) (hc : x v = some c) (hb : Reads b c) (hn : b.capacity ≤ n) :
    Refines (cloneDataIfReferenced s v p fill n) x ∧
      (cloneDataIfReferenced s v p fill n).hasOneRef v ∧
      ∃ b', (cloneDataIfReferenced s v p fill n).value v = some b' ∧ Reads b' c ∧
        b.capacity ≤ b'.capacity := by
  unfold cloneDataIfReferenced
  rw [hv]
  dsimp only
  by_cases hone : s.hasOneRef v
  · rw [if_pos hone]
    exact ⟨h, hone, b, hv, hb, Nat.le_refl _⟩
  · rw [if_neg hone]
    have hcopied : Reads (.ofData fill b.bytes n) { bytes := c.bytes } :=
      reads_ofData (hb.size.trans b.length_bytes.symm) hb.bytes_found
    have hsame : ({ bytes := c.bytes } : Contents) = c := by
      rw [← h.beyond_eq_nil hc hone]
    rw [hsame] at hcopied
    have hrenew := h.renew (v := v) hp hcopied
    rw [← hc, update_eq_self] at hrenew
    refine ⟨hrenew, h.sound.hasOneRef_renew hp (Or.inl rfl), _,
      (h.sound.value_renew hp).trans (if_pos rfl), hcopied, ?_⟩
    rw [Buffer.capacity_ofData]
    exact hn.trans (le_max_right ..)

/-! ## The calls -/

lemma Refines.construct (h : Refines s x) (hp : s.obj p = none) :
    Refines (construct s v p fill i n)
      (update x v (if 0 < i ∨ 0 < n then some (.blank i) else none)) := by
  unfold CopyOnWriteBuffers.construct
  split
  · exact h.renew hp reads_create
  · exact h.release

lemma Refines.constructFrom (h : Refines s x) (hp : s.obj p = none) :
    Refines (constructFrom s v p fill data n)
      (update x v (if 0 < data.length ∨ 0 < n then some (.known data) else none)) := by
  unfold CopyOnWriteBuffers.constructFrom CopyOnWriteBuffers.construct
  split
  · have hvalue :=
      (h.sound.value_renew (v := v) (u := v) (a := .create fill data.length n) hp).trans (if_pos rfl)
    have hroom : 0 + data.length ≤ (Buffer.create fill data.length n).capacity := by
      rw [Nat.zero_add]
      exact (Buffer.create fill data.length n).size_le
    have hmodify := (h.renew hp reads_create).modify (f := (·.write 0 data))
      (h.sound.hasOneRef_renew hp (Or.inl rfl)) hvalue (reads_create.write hroom)
    rwa [update_idem, Contents.blank_overwrite] at hmodify
  · rw [Counted.modify_of_none (by simp)]
    exact h.release

lemma Refines.copy (h : Refines s x) : Refines (copy s v w)
    (if v = w then x
    else update (update x w ((x w).map .settled)) v ((x w).map .settled)) := by
  unfold CopyOnWriteBuffers.copy
  split
  · exact h
  · rename_i hne
    have halive : ∀ q, s.ptr w = some q → (s.obj q).isSome := fun q hq =>
      (h.sound.alive q).mpr (h.sound.refCount_pos hq)
    have hsettled : Observes (s.value w) ((x w).map .settled) := by
      rcases h.null_or_reads w with ⟨hs, hx⟩ | ⟨b, c, hs, hx, hb⟩ <;> rw [hs, hx]
      · exact trivial
      · exact hb.settled
    have hplain : ∀ c, (x w).map Contents.settled = some c → c.beyond = [] := by
      intro c hc
      obtain ⟨c', -, rfl⟩ := Option.map_eq_some_iff.mp hc
      rfl
    refine ⟨h.sound.assign halive, fun u => ?_, fun u c hc hbeyond => ?_⟩
    · rw [h.sound.value_assign halive, update_apply, update_apply]
      split
      · exact hsettled
      · split
        · rename_i hu
          rw [hu]
          exact hsettled
        · exact h.observes u
    · have hv : u ≠ v := by
        rintro rfl
        rw [update_self] at hc
        exact hbeyond (hplain c hc)
      have hw : u ≠ w := by
        rintro rfl
        rw [update_of_ne hv, update_self] at hc
        exact hbeyond (hplain c hc)
      rw [update_of_ne hv, update_of_ne hw] at hc
      obtain ⟨q, hq, hall⟩ := h.sound.hasOneRef_iff.mp (h.alone u c hc hbeyond)
      rw [(h.sound.assign halive).hasOneRef_iff, Counted.ptr_assign]
      refine ⟨q, by rw [update_of_ne hv, hq], fun z hz => ?_⟩
      by_cases hz' : z = v
      · rw [hz', update_self] at hz
        exact absurd (hall w hz).symm hw
      · exact hall z (by rwa [update_of_ne hz'] at hz)

lemma Refines.move (h : Refines s x) :
    Refines (s.move v w) (update (update x w none) v (x w)) := by
  refine ⟨h.sound.move, fun u => ?_, fun u c hc hbeyond => ?_⟩
  · rw [h.sound.value_move, update_apply, update_apply]
    split
    · exact h.observes w
    · split
      · exact trivial
      · exact h.observes u
  · rw [h.sound.move.hasOneRef_iff, Counted.ptr_move]
    by_cases hv : u = v
    · subst hv
      rw [update_self] at hc
      obtain ⟨q, hq, hall⟩ := h.sound.hasOneRef_iff.mp (h.alone w c hc hbeyond)
      refine ⟨q, by rw [update_self, hq], fun z hz => by_contra fun hne => ?_⟩
      rw [update_of_ne hne, update_apply] at hz
      split at hz
      · cases hz
      · rename_i hzw
        exact hzw (hall z hz)
    · have hw : u ≠ w := by
        rintro rfl
        rw [update_of_ne hv, update_self] at hc
        cases hc
      rw [update_of_ne hv, update_of_ne hw] at hc
      obtain ⟨q, hq, hall⟩ := h.sound.hasOneRef_iff.mp (h.alone u c hc hbeyond)
      refine ⟨q, by rw [update_of_ne hv, update_of_ne hw, hq], fun z hz => ?_⟩
      rw [update_apply, update_apply] at hz
      split at hz
      · exact absurd (hall w hz).symm hw
      · split at hz
        · cases hz
        · exact hall z hz

lemma Refines.swap (h : Refines s x) : Refines (s.swap v w) (x ∘ Equiv.swap v w) := by
  refine ⟨h.sound.swap, fun u => ?_, fun u c hc hbeyond => ?_⟩
  · rw [h.sound.value_swap]
    exact h.observes _
  · obtain ⟨q, hq, hall⟩ := h.sound.hasOneRef_iff.mp (h.alone _ c hc hbeyond)
    rw [h.sound.swap.hasOneRef_iff, Counted.ptr_swap]
    exact ⟨q, hq, fun z hz => (Equiv.swap v w).injective (hall _ hz)⟩

lemma Refines.setData (h : Refines s x) (hp : s.obj p = none) : Refines (setData s v p fill data)
    (update x v (if x v = none ∧ data = [] then none else some (.known data))) := by
  unfold CopyOnWriteBuffers.setData
  rcases h.null_or_reads v with ⟨hs, hx⟩ | ⟨b, c, hs, hx, hb⟩ <;> rw [hs, hx] <;> dsimp only
  · by_cases hdata : data = []
    · rw [if_neg (by simp [hdata]), if_pos ⟨rfl, hdata⟩]
      exact h.release
    · rw [if_pos (List.length_pos_iff.mpr hdata), if_neg fun h => hdata h.2]
      exact h.renew hp (reads_ofData (List.length_map ..) matches_known)
  · rw [if_neg (show ¬(some c = none ∧ data = []) from fun h => by cases h.1)]
    split
    · rename_i hone
      exact h.modify hone hs (reads_clear.appendData (List.length_map ..) matches_known)
    · exact h.renew hp (reads_ofData (List.length_map ..) matches_known)

/-- The appended octets may be known in part only. -/
lemma Refines.appendData (h : Refines s x) (hp : s.obj p = none) (hlen : xs.length = data.length)
    (hxs : Matches xs data) : Refines (appendData s v p fill data)
      (update x v (some (((x v).getD {}).append xs))) := by
  unfold CopyOnWriteBuffers.appendData
  rcases h.null_or_reads v with ⟨hs, hx⟩ | ⟨b, c, hs, hx, hb⟩ <;> rw [hs, hx] <;> dsimp only
  · exact h.renew hp (reads_ofData hlen hxs)
  · obtain ⟨hclone, hone, b', hs', hb', -⟩ := h.clone fill hp hs hx hb (le_max_left _
      (b.size + data.length))
    exact hclone.modify hone hs' (hb'.appendData hlen hxs)

lemma Refines.appendBuffer (h : Refines s x) (hp : s.obj p = none)
    (hstep : appendBuffer s v w p fill = some t) :
    Refines t (update x v (some (((x v).getD {}).append ((x w).getD {}).bytes))) := by
  unfold CopyOnWriteBuffers.appendBuffer at hstep
  split at hstep
  · cases hstep
  · cases hstep
    rcases h.null_or_reads w with ⟨hs, hx⟩ | ⟨b, c, hs, hx, hb⟩ <;> rw [hs, hx]
    · exact h.appendData hp rfl (by intro i y hi; simp at hi)
    · exact h.appendData hp (hb.size.trans b.length_bytes.symm) hb.bytes_found

lemma Refines.setSize (h : Refines s x) (hp : s.obj p = none) : Refines (setSize s v p fill n)
    (update x v (if x v = none ∧ n = 0 then none else some (((x v).getD {}).resize n))) := by
  unfold CopyOnWriteBuffers.setSize
  rcases h.null_or_reads v with ⟨hs, hx⟩ | ⟨b, c, hs, hx, hb⟩ <;> rw [hs, hx] <;> dsimp only
  · by_cases hn : n = 0
    · rw [if_neg (by omega), if_pos ⟨rfl, hn⟩, ← hx, update_eq_self]
      exact h
    · rw [if_pos (by omega), if_neg fun h => hn h.2, Option.getD_none, Contents.resize_nil]
      exact h.renew hp reads_create
  · rw [if_neg (show ¬(some c = none ∧ n = 0) from fun h => by cases h.1), Option.getD_some]
    split
    · rename_i hone
      exact h.modify hone hs hb.setSize
    · rename_i hshared
      have hkept : Reads (.ofData fill (b.data.take (min b.size n)) (max b.capacity n))
          { bytes := c.bytes.take n } := by
        have hfound := hb.bytes_found.take n
        rw [Buffer.bytes, List.take_take, Nat.min_comm] at hfound
        refine reads_ofData ?_ hfound
        have hsize := b.size_le
        rw [List.length_take, List.length_take, hb.size]
        omega
      have hmodify := (h.renew (v := v) hp hkept).modify (f := (·.setSize fill n))
        (h.sound.hasOneRef_renew hp (Or.inl rfl)) ((h.sound.value_renew hp).trans (if_pos rfl))
        hkept.setSize
      rwa [update_idem, Contents.resize_take (h.beyond_eq_nil hx hshared)] at hmodify

lemma Refines.ensureCapacity (h : Refines s x) (hp : s.obj p = none) :
    Refines (ensureCapacity s v p fill n)
      (update x v (if x v = none ∧ n = 0 then none else some ((x v).getD {}).settled)) := by
  unfold CopyOnWriteBuffers.ensureCapacity
  rcases h.null_or_reads v with ⟨hs, hx⟩ | ⟨b, c, hs, hx, hb⟩ <;> rw [hs, hx] <;> dsimp only
  · by_cases hn : n = 0
    · rw [if_neg (by omega), if_pos ⟨rfl, hn⟩, ← hx, update_eq_self]
      exact h
    · rw [if_pos (by omega), if_neg fun h => hn h.2]
      exact h.renew hp reads_create
  · rw [if_neg (show ¬(some c = none ∧ n = 0) from fun h => by cases h.1), Option.getD_some]
    split
    · exact h.settle hx
    · obtain ⟨hclone, hone, b', hs', hb', -⟩ := h.clone fill hp hs hx hb (le_max_left _ n)
      exact hclone.modify hone hs' (hb'.ensureCapacityWithHeadroom _ _ false)

lemma Refines.clear (h : Refines s x) (hp : s.obj p = none) :
    Refines (clear s v p fill) (update x v ((x v).map fun _ => {})) := by
  unfold CopyOnWriteBuffers.clear
  rcases h.null_or_reads v with ⟨hs, hx⟩ | ⟨b, c, hs, hx, hb⟩ <;> rw [hs, hx] <;> dsimp only
  · rw [Option.map_none, ← hx, update_eq_self]
    exact h
  · rw [Option.map_some]
    split
    · rename_i hone
      exact h.modify hone hs reads_clear
    · exact h.renew hp reads_create

lemma Refines.write (h : Refines s x) (hp : s.obj p = none)
    (hstep : write s v p fill i data = some t) :
    Refines t (update x v ((x v).map (·.overwrite i data))) := by
  unfold CopyOnWriteBuffers.write at hstep
  rcases h.null_or_reads v with ⟨hs, hx⟩ | ⟨b, c, hs, hx, hb⟩ <;> rw [hs] at hstep <;> rw [hx]
  · cases hstep
  · dsimp only at hstep
    split at hstep
    · rename_i hroom
      cases hstep
      obtain ⟨hclone, hone, b', hs', hb', hcapacity⟩ := h.clone fill hp hs hx hb (Nat.le_refl _)
      exact hclone.modify hone hs' (hb'.write (hroom.trans hcapacity))
    · cases hstep

/-- Each call does to the shared buffers what it does to the values. -/
theorem Refines.step {e : BufferEvent V} (h : Refines s x) (hstep : Steps s e t) :
    Refines t (e.call.apply x) := by
  obtain ⟨hp, hstep⟩ := hstep
  unfold CopyOnWriteBuffers.step at hstep
  cases hcall : e.call with rw [hcall] at hstep
  | construct v size capacity => exact Option.some.inj hstep ▸ h.construct hp
  | constructFrom v data capacity => exact Option.some.inj hstep ▸ h.constructFrom hp
  | copy v w => exact Option.some.inj hstep ▸ h.copy
  | move v w => exact Option.some.inj hstep ▸ h.move
  | swap v w => exact Option.some.inj hstep ▸ h.swap
  | setData v data => exact Option.some.inj hstep ▸ h.setData hp
  | appendData v data =>
    exact Option.some.inj hstep ▸ h.appendData hp (List.length_map ..) matches_known
  | appendBuffer v w => exact h.appendBuffer hp hstep
  | setSize v size => exact Option.some.inj hstep ▸ h.setSize hp
  | ensureCapacity v capacity => exact Option.some.inj hstep ▸ h.ensureCapacity hp
  | clear v => exact Option.some.inj hstep ▸ h.clear hp
  | write v i data => exact h.write hp hstep
  | destroy v => exact Option.some.inj hstep ▸ h.release

theorem refines_independent {es : List (BufferEvent V)} (hrun : Leads Steps {} es s) :
    Refines s (independent es) := by
  refine hrun.invariant (J := fun es s => Refines s (independent es)) refines_initial
    fun es t e u ht hstep => ?_
  rw [independent, List.foldl_append]
  exact ht.step hstep

/-! ## What a program sees -/

omit [DecidableEq V] in
/-- Where the values are known, `operator==` compares them. -/
lemma Refines.equals_iff {a a' : Option Bytes} (h : Refines s x)
    (hv : (x v).map Contents.bytes = a.map (List.map some))
    (hw : (x w).map Contents.bytes = a'.map (List.map some)) : s.equals v w ↔ a = a' := by
  have hread : ∀ u o, (x u).map Contents.bytes = o.map (List.map some) →
      (s.value u).map Buffer.bytes = o := by
    intro u o hu
    rcases h.null_or_reads u with ⟨hs, hx⟩ | ⟨b, c, hs, hx, hb⟩ <;> rw [hx] at hu <;> rw [hs]
    · cases o with
      | none => rfl
      | some o => cases hu
    · cases o with
      | none => cases hu
      | some o =>
        have hfound := hb.bytes_found
        rw [Option.some.inj hu] at hfound
        have hlen : c.bytes.length = o.length := by rw [Option.some.inj hu, List.length_map]
        rw [Option.map_some, ← hfound.eq (hlen.symm.trans (hb.size.trans b.length_bytes.symm))]
  rw [← hread v a hv, ← hread w a' hw]
  unfold equals
  rw [Bool.or_eq_true, beq_iff_eq]
  cases hsv : s.value v with
  | none =>
    have hpv := h.sound.value_eq_none.mp hsv
    cases hsw : s.value w with
    | none => simp [hpv, h.sound.value_eq_none.mp hsw]
    | some b' =>
      have hpw : s.ptr w ≠ none := fun hnone => by
        rw [h.sound.value_eq_none.mpr hnone] at hsw
        cases hsw
      simp [hpv, hpw.symm]
  | some b =>
    cases hsw : s.value w with
    | none =>
      have hpv : s.ptr v ≠ none := fun hnone => by
        rw [h.sound.value_eq_none.mpr hnone] at hsv
        cases hsv
      simp [hpv, h.sound.value_eq_none.mp hsw]
    | some b' =>
      have hequals : b.equals b' ↔ b.bytes = b'.bytes := by
        unfold Buffer.equals
        rw [Bool.and_eq_true, beq_iff_eq, beq_iff_eq]
        exact ⟨fun h => h.2, fun h => ⟨by rw [← b.length_bytes, h, b'.length_bytes], h⟩⟩
      rw [Option.map_some, Option.map_some, Option.some_inj]
      refine ⟨fun hor => hor.elim (fun hsame => ?_) hequals.mp, fun heq => Or.inr (hequals.mpr heq)⟩
      rw [Counted.value, hsame] at hsv
      rw [Option.some.inj (hsv.symm.trans hsw)]

/-- In every run each buffer reads as a value of its own, however the buffers share their memory;
what is compared are the values; every count is the number of buffers that share, and memory that no
buffer refers to is freed. -/
theorem buffers_independent {es : List (BufferEvent V)} (hrun : Leads Steps {} es s) :
    (∀ v, Observes (s.value v) (independent es v)) ∧
    (∀ v w (a a' : Option Bytes), (independent es v).map Contents.bytes = a.map (List.map some) →
      (independent es w).map Contents.bytes = a'.map (List.map some) →
      (s.equals v w ↔ a = a')) ∧
    ∀ p, {v | s.ptr v = some p}.encard = s.refCount p ∧
      ((s.obj p).isSome ↔ ∃ v, s.ptr v = some p) := by
  have hrefines := refines_independent hrun
  refine ⟨hrefines.observes, fun v w a a' hv hw => hrefines.equals_iff hv hw, fun p => ?_⟩
  have hcounted := hrefines.sound.counted p
  rw [List.count_nil, Nat.cast_zero, add_zero] at hcounted
  refine ⟨hcounted, (hrefines.sound.alive p).trans ?_⟩
  have hpos : 0 < s.refCount p ↔ (0 : ℕ∞) < s.refCount p := by norm_cast
  rw [hpos, ← hcounted, Set.encard_pos]
  rfl

/-- A run that can be executed. -/
def exec (s : CopyOnWriteBuffers V) (e : BufferEvent V) : Option (CopyOnWriteBuffers V) :=
  if (s.obj e.address).isNone then step s e else none

lemma steps_of_exec (s : CopyOnWriteBuffers V) (e : BufferEvent V) (t : CopyOnWriteBuffers V)
    (h : exec s e = some t) : Steps s e t := by
  unfold exec at h
  split at h
  · rename_i hnone
    exact ⟨Option.isNone_iff_eq_none.mp hnone, h⟩
  · cases h

/-- A packet of three octets with room for two more, a copy of it that is protected in place and
grows by one octet, and an octet that is appended to the first. -/
def samplePacket : List (BufferEvent Nat) :=
  [⟨.constructFrom 0 [1, 2, 3] 5, 0, fun _ => 0⟩, ⟨.copy 1 0, 1, fun _ => 0⟩,
    ⟨.write 1 0 [7, 8, 9, 10], 1, fun _ => 0⟩, ⟨.setSize 1 4, 2, fun _ => 0⟩,
    ⟨.copy 2 0, 2, fun _ => 0⟩, ⟨.appendData 0 [4], 2, fun _ => 0⟩]

theorem samplePacket_independent : ∃ s : CopyOnWriteBuffers Nat, Leads Steps {} samplePacket s ∧
    Observes (s.value 0) (some (.known [1, 2, 3, 4])) ∧
    Observes (s.value 1) (some (.known [7, 8, 9, 10])) ∧
    Observes (s.value 2) (some (.known [1, 2, 3])) ∧ ¬ s.equals 0 2 := by
  obtain ⟨s, hs⟩ : ∃ s, samplePacket.foldlM exec {} = some s :=
    Option.isSome_iff_exists.mp (by decide)
  have hrun := leads_of_foldlM steps_of_exec hs
  obtain ⟨hobserves, hequals, -⟩ := buffers_independent hrun
  refine ⟨s, hrun, hobserves 0, hobserves 1, hobserves 2, fun heq => ?_⟩
  have hsame := (hequals 0 2 (some [1, 2, 3, 4]) (some [1, 2, 3]) rfl rfl).mp heq
  exact absurd hsame (by decide)

/-! ## Buffers without memory -/

/-- `IsConsistent`, the pre- and postcondition of all member functions, for all buffers. -/
def Consistent (s : CopyOnWriteBuffers V) : Prop :=
  ∀ v b, s.value v = some b → 0 < b.capacity

/-- Every call but one that appends nothing to a null buffer. -/
def GivesMemory (s : CopyOnWriteBuffers V) (e : BufferEvent V) : Prop :=
  match e.call with
  | .appendData v data => s.value v = none → data ≠ []
  | .appendBuffer v w => s.value v = none → (s.value w).elim [] Buffer.bytes ≠ []
  | _ => True

lemma Consistent.renew (h : Consistent s) (hs : s.Sound []) (hp : s.obj p = none)
    (hb : 0 < b.capacity) : Consistent (s.renew v p b) := by
  intro u b' hu
  rw [hs.value_renew hp] at hu
  split at hu
  · exact Option.some.inj hu ▸ hb
  · exact h u b' hu

lemma Consistent.modify (h : Consistent s) (hs : s.Sound []) (hone : s.hasOneRef v)
    (hf : ∀ b, b.capacity ≤ (f b).capacity) : Consistent (s.modify v f) := by
  intro u b' hu
  rw [hs.value_modify hone] at hu
  split at hu
  · obtain ⟨b, hb, rfl⟩ := Option.map_eq_some_iff.mp hu
    exact (h v b hb).trans_le (hf b)
  · exact h u b' hu

lemma Consistent.assign {o : Option Nat} (h : Consistent s) (hs : s.Sound [])
    (ho : o = none ∨ o = s.ptr w) : Consistent (s.assign v o) := by
  have halive : ∀ q, o = some q → (s.obj q).isSome := by
    intro q hq
    refine (hs.alive q).mpr (hs.refCount_pos (u := w) ?_)
    rcases ho with ho | ho <;> rw [ho] at hq
    · cases hq
    · exact hq
  intro u b' hu
  rw [hs.value_assign halive] at hu
  split at hu
  · rcases ho with ho | ho <;> rw [ho] at hu
    · cases hu
    · exact h w b' hu
  · exact h u b' hu

/-- A buffer is cloned, if it is shared, and written to. -/
lemma Consistent.cloneModify (h : Consistent s) (hr : Refines s x) (hp : s.obj p = none)
    (hv : s.value v = some b) (hn : b.capacity ≤ n) (hf : ∀ b, b.capacity ≤ (f b).capacity) :
    Consistent ((cloneDataIfReferenced s v p fill n).modify v f) := by
  obtain ⟨hclone, hone, -⟩ : ∃ _ : Refines (cloneDataIfReferenced s v p fill n) x,
      (cloneDataIfReferenced s v p fill n).hasOneRef v ∧ True := by
    rcases hr.null_or_reads v with ⟨hs, -⟩ | ⟨b', c, hs, hx, hb⟩ <;> rw [hs] at hv <;> cases hv
    obtain ⟨hclone, hone, -⟩ := hr.clone fill hp hs hx hb hn
    exact ⟨hclone, hone, trivial⟩
  refine Consistent.modify ?_ hclone.sound hone hf
  unfold cloneDataIfReferenced
  rw [hv]
  dsimp only
  split
  · exact h
  · refine h.renew hr.sound hp ?_
    rw [Buffer.capacity_ofData]
    exact (h v b hv).trans_le (hn.trans (le_max_right ..))

lemma Consistent.appendData (h : Consistent s) (hr : Refines s x) (hp : s.obj p = none)
    (hdata : s.value v = none → data ≠ []) : Consistent (appendData s v p fill data) := by
  unfold CopyOnWriteBuffers.appendData
  cases hv : s.value v with
  | none =>
    refine h.renew hr.sound hp ?_
    rw [Buffer.capacity_ofData]
    exact (List.length_pos_iff.mpr (hdata hv)).trans_le (le_max_left ..)
  | some b =>
    exact h.cloneModify hr hp hv (le_max_left ..) fun b => b.capacity_le_appendData fill data

lemma Consistent.step {e : BufferEvent V} (h : Consistent s) (hr : Refines s x)
    (hmemory : GivesMemory s e) (hstep : Steps s e t) : Consistent t := by
  obtain ⟨hp, hstep⟩ := hstep
  unfold CopyOnWriteBuffers.step at hstep
  unfold GivesMemory at hmemory
  have hgrow : ∀ (fill : Nat → UInt8) (b : Buffer) (n : Nat) (e : Bool), b.capacity ≤
      (b.ensureCapacityWithHeadroom fill n e).capacity :=
    Buffer.capacity_le_ensureCapacityWithHeadroom
  have hconstruct : ∀ (v : V) (fill : Nat → UInt8) (size capacity : Nat),
      Consistent (construct s v e.address fill size capacity) := by
    intro v fill size capacity
    unfold construct
    split
    · refine h.renew hr.sound hp ?_
      rw [Buffer.capacity_create]
      omega
    · exact h.assign (w := v) hr.sound (Or.inl rfl)
  cases hcall : e.call with (rw [hcall] at hstep hmemory; dsimp only at hstep hmemory)
  | construct v size capacity =>
    rw [← Option.some.inj hstep]
    exact hconstruct v e.fill size capacity
  | constructFrom v data capacity =>
    rw [← Option.some.inj hstep]
    have hconstructed := hconstruct v e.fill data.length capacity
    unfold constructFrom
    by_cases hsize : 0 < data.length ∨ 0 < capacity
    · rw [construct, if_pos hsize] at hconstructed ⊢
      exact hconstructed.modify (hr.sound.renew hp) (hr.sound.hasOneRef_renew hp (Or.inl rfl))
        fun b => b.capacity_le_write 0 data
    · rw [construct, if_neg hsize, Counted.modify_of_none (by simp)]
      exact h.assign (w := v) hr.sound (Or.inl rfl)
  | copy v w =>
    rw [← Option.some.inj hstep]
    unfold CopyOnWriteBuffers.copy
    split
    · exact h
    · exact h.assign hr.sound (Or.inr rfl)
  | move v w =>
    rw [← Option.some.inj hstep]
    intro u b hu
    rw [hr.sound.value_move] at hu
    split at hu
    · exact h w b hu
    · split at hu
      · cases hu
      · exact h u b hu
  | swap v w =>
    rw [← Option.some.inj hstep]
    intro u b hu
    rw [hr.sound.value_swap] at hu
    exact h _ b hu
  | setData v data =>
    rw [← Option.some.inj hstep]
    unfold setData
    cases hv : s.value v with
    | none =>
      dsimp only
      split
      · refine h.renew hr.sound hp ?_
        rw [Buffer.capacity_ofData]
        omega
      · exact h.assign (w := v) hr.sound (Or.inl rfl)
    | some b =>
      dsimp only
      split
      · rename_i hone
        exact h.modify hr.sound hone fun b => b.clear.capacity_le_appendData e.fill data
      · refine h.renew hr.sound hp ?_
        rw [Buffer.capacity_ofData]
        exact (h v b hv).trans_le (le_max_right ..)
  | appendData v data => exact Option.some.inj hstep ▸ h.appendData hr hp hmemory
  | appendBuffer v w =>
    unfold appendBuffer at hstep
    split at hstep
    · cases hstep
    · exact Option.some.inj hstep ▸ h.appendData hr hp hmemory
  | setSize v size =>
    rw [← Option.some.inj hstep]
    unfold setSize
    cases hv : s.value v with
    | none =>
      dsimp only
      split
      · refine h.renew hr.sound hp ?_
        rw [Buffer.capacity_create]
        omega
      · exact h
    | some b =>
      dsimp only
      split
      · rename_i hone
        exact h.modify hr.sound hone fun b => hgrow e.fill b size true
      · refine Consistent.modify (h.renew hr.sound hp ?_) (hr.sound.renew hp)
          (hr.sound.hasOneRef_renew hp (Or.inl rfl)) fun b => hgrow e.fill b size true
        rw [Buffer.capacity_ofData]
        exact (h v b hv).trans_le ((le_max_left ..).trans (le_max_right ..))
  | ensureCapacity v capacity =>
    rw [← Option.some.inj hstep]
    unfold ensureCapacity
    cases hv : s.value v with
    | none =>
      dsimp only
      split
      · refine h.renew hr.sound hp ?_
        rw [Buffer.capacity_create]
        omega
      · exact h
    | some b =>
      dsimp only
      split
      · exact h
      · exact h.cloneModify hr hp hv (le_max_left ..) fun b => hgrow e.fill b capacity false
  | clear v =>
    rw [← Option.some.inj hstep]
    unfold clear
    cases hv : s.value v with
    | none => exact h
    | some b =>
      dsimp only
      split
      · rename_i hone
        exact h.modify hr.sound hone fun b => Nat.le_refl _
      · refine h.renew hr.sound hp ?_
        rw [Buffer.capacity_create]
        exact (h v b hv).trans_le (le_max_right ..)
  | write v i data =>
    unfold write at hstep
    cases hv : s.value v with
    | none => simp [hv] at hstep
    | some b =>
      rw [hv] at hstep
      dsimp only at hstep
      split at hstep
      · rw [← Option.some.inj hstep]
        exact h.cloneModify hr hp hv (Nat.le_refl _) fun b => b.capacity_le_write i data
      · cases hstep
  | destroy v => exact Option.some.inj hstep ▸ h.assign (w := v) hr.sound (Or.inl rfl)

/-- Nothing appended to a null buffer makes one without memory. -/
lemma not_consistent_appendData (hr : Refines s x) (hp : s.obj p = none)
    (hv : s.value v = none) : ¬ Consistent (appendData s v p fill []) := by
  intro h
  unfold CopyOnWriteBuffers.appendData at h
  rw [hv] at h
  have hpos := h v _ ((hr.sound.value_renew hp).trans (if_pos rfl))
  rw [Buffer.capacity_ofData] at hpos
  exact absurd hpos (lt_irrefl 0)

/-- `IsConsistent` holds throughout a run exactly if nothing is never appended to a null buffer. -/
theorem consistent_iff {es : List (BufferEvent V)} :
    Along Steps Consistent ({} : CopyOnWriteBuffers V) es ↔ Meets Steps GivesMemory {} es := by
  refine along_iff_meets (I := fun s => (∃ x, Refines s x) ∧ Consistent s) (fun s h => h.2)
    (fun s e t h hmemory hstep => ?_) (fun s e t h hstep ht => ?_)
    ⟨⟨_, refines_initial⟩, fun v b hv => by cases hv⟩
  · obtain ⟨⟨x, hr⟩, hs⟩ := h
    exact ⟨⟨_, hr.step hstep⟩, hs.step hr hmemory hstep⟩
  · obtain ⟨⟨x, hr⟩, hs⟩ := h
    obtain ⟨hp, hstep⟩ := hstep
    unfold step at hstep
    unfold GivesMemory
    cases hcall : e.call with (rw [hcall] at hstep; dsimp only at hstep ⊢)
    | appendData v data =>
      rintro hv rfl
      rw [← Option.some.inj hstep] at ht
      exact not_consistent_appendData hr hp hv ht
    | appendBuffer v w =>
      intro hv hnil
      unfold appendBuffer at hstep
      split at hstep
      · cases hstep
      · rw [← Option.some.inj hstep, hnil] at ht
        exact not_consistent_appendData hr hp hv ht

end CopyOnWriteBuffers

end XrtcServer.Base
