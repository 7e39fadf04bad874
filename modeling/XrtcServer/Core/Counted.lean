import Mathlib.Data.Set.Card
import Mathlib.Logic.Equiv.Basic

/-!
# Counted references

References of some type point to objects, and each object has a count of the references to it. While
a reference is on its way from one place to another it is held by no place at all; `Sound s t` says
that every count is the number of the places plus that of the entries of `t`, the references on
their way. An object is there as long as its count is positive.
-/

namespace XrtcServer.Core
open Function

structure Counted (V α : Type*) where
  ptr : V → Option Nat := fun _ => none
  obj : Nat → Option α := fun _ => none
  refCount : Nat → Nat := fun _ => 0

namespace Counted
variable {V α : Type*}

/-- The object that a reference points to. -/
def value (s : Counted V α) (v : V) : Option α := (s.ptr v).bind s.obj

def hasOneRef (s : Counted V α) (v : V) : Bool := (s.ptr v).any fun p => s.refCount p == 1

/-- A new object that no reference points to yet. -/
def create (s : Counted V α) (p : Nat) (a : α) : Counted V α :=
  { s with obj := update s.obj p (some a), refCount := update s.refCount p 0 }

def addRef (s : Counted V α) : Option Nat → Counted V α
  | none => s
  | some p => { s with refCount := update s.refCount p (s.refCount p + 1) }

/-- The last one who lets go of an object deletes it. -/
def release (s : Counted V α) : Option Nat → Counted V α
  | none => s
  | some p => { s with
      obj := if s.refCount p = 1 then update s.obj p none else s.obj
      refCount := update s.refCount p (s.refCount p - 1) }

section Operations
variable [DecidableEq V]

/-- Writes a reference and touches no count. -/
def point (s : Counted V α) (v : V) (o : Option Nat) : Counted V α :=
  { s with ptr := update s.ptr v o }

/-- `v` lets go of what it points to and takes over the reference `o`. -/
def put (s : Counted V α) (v : V) (o : Option Nat) : Counted V α :=
  (s.release (s.ptr v)).point v o

def assign (s : Counted V α) (v : V) (o : Option Nat) : Counted V α := (s.addRef o).put v o

/-- `v` takes over the reference of `w`, which then points nowhere. -/
def move (s : Counted V α) (v w : V) : Counted V α := (s.point w none).put v (s.ptr w)

def swap (s : Counted V α) (v w : V) : Counted V α :=
  ((s.point v none).move v w).put w (s.ptr v)

def renew (s : Counted V α) (v : V) (p : Nat) (a : α) : Counted V α :=
  (s.create p a).assign v (some p)

end Operations

/-- Writes to the object that `v` points to. -/
def modify (s : Counted V α) (v : V) (f : α → α) : Counted V α :=
  match s.ptr v with
  | none => s
  | some p => { s with obj := update s.obj p ((s.obj p).map f) }

structure Sound (s : Counted V α) (t : List (Option Nat)) : Prop where
  counted : ∀ p, {v | s.ptr v = some p}.encard + t.count (some p) = s.refCount p
  alive : ∀ p, (s.obj p).isSome ↔ 0 < s.refCount p

variable {s s' : Counted V α} {t : List (Option Nat)} {u v w : V} {o : Option Nat} {p q : Nat}
  {a : α} {f : α → α}

theorem sound_initial : Sound ({} : Counted V α) [] where
  counted p := by simp
  alive p := by simp

lemma Sound.refCount_pos (h : s.Sound t) (hq : s.ptr u = some q) : 0 < s.refCount q := by
  have hpos : 0 < {v | s.ptr v = some q}.encard := Set.encard_pos.mpr ⟨u, hq⟩
  have hcounted := h.counted q
  rw [Nat.pos_iff_ne_zero]
  intro hzero
  rw [hzero, Nat.cast_zero, add_eq_zero] at hcounted
  exact hpos.ne' hcounted.1

lemma Sound.ptr_ne (h : s.Sound t) (hp : s.obj p = none) : s.ptr u ≠ some p := by
  intro hu
  have halive := (h.alive p).mpr (h.refCount_pos hu)
  rw [hp] at halive
  exact absurd halive (by simp)

lemma Sound.refCount_pos_of_mem (h : s.Sound t) (hq : some q ∈ t) : 0 < s.refCount q := by
  have hpos : 0 < t.count (some q) := List.count_pos_iff.mpr hq
  have hcounted := h.counted q
  rw [Nat.pos_iff_ne_zero]
  intro hzero
  rw [hzero, Nat.cast_zero, add_eq_zero] at hcounted
  exact hpos.ne' (by exact_mod_cast hcounted.2)

/-- No reference points to a deleted object. -/
lemma Sound.value_isSome (h : s.Sound t) : (s.value u).isSome ↔ (s.ptr u).isSome := by
  unfold value
  cases hu : s.ptr u with
  | none => simp
  | some q =>
    rw [Option.bind_some, Option.isSome_some]
    exact iff_of_true ((h.alive q).mpr (h.refCount_pos hu)) rfl

lemma sound_none : s.Sound (none :: t) ↔ s.Sound t := by
  constructor <;> intro h <;> refine ⟨fun p => ?_, h.alive⟩ <;> have hp := h.counted p
  · rwa [List.count_cons_of_ne (by nofun)] at hp
  · rwa [List.count_cons_of_ne (by nofun)]

lemma Sound.addRef (h : s.Sound t) (ho : ∀ p, o = some p → (s.obj p).isSome) :
    (s.addRef o).Sound (o :: t) := by
  cases o with
  | none => exact sound_none.mpr h
  | some p =>
    have hpos := (h.alive p).mp (ho p rfl)
    refine ⟨fun q => ?_, fun q => ?_⟩
    · change _ = ((update s.refCount p (s.refCount p + 1) q : Nat) : ℕ∞)
      by_cases hq : q = p
      · rw [hq, update_self, List.count_cons_self, Nat.cast_add, Nat.cast_add, ← add_assoc]
        exact congrArg (· + _) (h.counted p)
      · rw [update_of_ne hq, List.count_cons_of_ne (by simpa using Ne.symm hq)]
        exact h.counted q
    · change _ ↔ 0 < update s.refCount p (s.refCount p + 1) q
      by_cases hq : q = p
      · rw [hq, update_self]
        exact iff_of_true (ho p rfl) (Nat.succ_pos _)
      · rw [update_of_ne hq]
        exact h.alive q

lemma Sound.create (h : s.Sound t) (hp : s.obj p = none) :
    ((s.create p a).addRef (some p)).Sound (some p :: t) := by
  have hzero : s.refCount p = 0 := by
    have halive := h.alive p
    rw [hp] at halive
    simpa using halive
  refine ⟨fun q => ?_, fun q => ?_⟩
  · change _ = ((update (update s.refCount p 0) p (update s.refCount p 0 p + 1) q : Nat) : ℕ∞)
    have hq' := h.counted q
    by_cases hq : q = p
    · subst hq
      rw [hzero] at hq'
      rw [update_self, update_self, List.count_cons_self, Nat.cast_add, ← add_assoc]
      exact congrArg (· + _) hq'
    · rw [update_of_ne hq, update_of_ne hq, List.count_cons_of_ne (by simpa using Ne.symm hq)]
      exact hq'
  · change (update s.obj p (some a) q).isSome ↔
      0 < update (update s.refCount p 0) p (update s.refCount p 0 p + 1) q
    by_cases hq : q = p
    · rw [hq, update_self, update_self]
      exact iff_of_true rfl (Nat.succ_pos _)
    · rw [update_of_ne hq, update_of_ne hq, update_of_ne hq]
      exact h.alive q

lemma Sound.release (h : s.Sound (o :: t)) : (s.release o).Sound t := by
  cases o with
  | none => exact sound_none.mp h
  | some p =>
    have hpos := h.refCount_pos_of_mem (List.mem_cons_self ..)
    have hp := h.counted p
    rw [List.count_cons_self, Nat.cast_add, ← add_assoc] at hp
    refine ⟨fun q => ?_, fun q => ?_⟩
    · change _ = ((update s.refCount p (s.refCount p - 1) q : Nat) : ℕ∞)
      by_cases hq : q = p
      · rw [hq, update_self]
        refine (ENat.add_left_injective_of_ne_top (n := 1) (by simp)) ?_
        change _ + 1 = _ + 1
        rw [← Nat.cast_one, ← Nat.cast_add (s.refCount p - 1) 1, Nat.sub_add_cancel hpos]
        exact hp
      · rw [update_of_ne hq]
        have hq' := h.counted q
        rwa [List.count_cons_of_ne (by simpa using Ne.symm hq)] at hq'
    · change ((if s.refCount p = 1 then update s.obj p none else s.obj) q).isSome ↔
        0 < update s.refCount p (s.refCount p - 1) q
      by_cases hq : q = p
      · subst hq
        rw [update_self]
        split
        · rename_i hone
          rw [update_self, hone]
          simp
        · rename_i hone
          exact iff_of_true ((h.alive q).mpr hpos) (by omega)
      · rw [update_of_ne hq]
        split
        · rw [update_of_ne hq]
          exact h.alive q
        · exact h.alive q

section Transfer
variable [DecidableEq V]

lemma Sound.point (h : s.Sound (o :: t)) : (s.point v o).Sound (s.ptr v :: t) := by
  refine ⟨fun q => ?_, h.alive⟩
  refine Eq.trans ?_ (h.counted q)
  change {u | update s.ptr v o u = some q}.encard + _ = _
  -- Without `v` the two sets of references are the same.
  have hsplit : ∀ (g : V → Option Nat), {u | g u = some q}.encard =
      {u | u ≠ v ∧ g u = some q}.encard + if g v = some q then 1 else 0 := by
    intro g
    split
    · rename_i hv
      rw [← Set.encard_insert_of_notMem (a := v) (by simp)]
      congr 1
      ext u
      by_cases hu : u = v
      · simp [hu, hv]
      · simp [hu]
    · rename_i hv
      rw [add_zero]
      congr 1
      ext u
      by_cases hu : u = v
      · simp [hu, hv]
      · simp [hu]
  have hsame : {u | u ≠ v ∧ update s.ptr v o u = some q} = {u | u ≠ v ∧ s.ptr u = some q} := by
    ext u
    by_cases hu : u = v
    · simp [hu]
    · simp [hu]
  rw [hsplit (update s.ptr v o), hsplit s.ptr, hsame, update_self, List.count_cons,
    List.count_cons]
  simp only [beq_iff_eq, Nat.cast_add, Nat.cast_ite, Nat.cast_one, Nat.cast_zero]
  rw [add_add_add_comm, add_comm (if o = some q then 1 else 0), add_add_add_comm]

lemma put_eq : s.put v o = (s.point v o).release (s.ptr v) := by
  unfold put
  cases s.ptr v <;> rfl

lemma Sound.put (h : s.Sound (o :: t)) : (s.put v o).Sound t := by
  rw [put_eq]
  exact h.point.release

theorem Sound.assign (h : s.Sound t) (ho : ∀ p, o = some p → (s.obj p).isSome) :
    (s.assign v o).Sound t :=
  (h.addRef ho).put

theorem Sound.move (h : s.Sound t) : (s.move v w).Sound t :=
  (sound_none.mpr h).point.put

theorem Sound.swap (h : s.Sound t) : (s.swap v w).Sound t :=
  (sound_none.mpr h).point.move.put

theorem Sound.renew (h : s.Sound t) (hp : s.obj p = none) : (s.renew v p a).Sound t :=
  (h.create hp).put

end Transfer

theorem Sound.modify (h : s.Sound t) : (s.modify v f).Sound t := by
  unfold Counted.modify
  cases hv : s.ptr v with
  | none => exact h
  | some p =>
    refine ⟨h.counted, fun q => ?_⟩
    change (update s.obj p ((s.obj p).map f) q).isSome ↔ _
    by_cases hq : q = p
    · rw [hq, update_self, Option.isSome_map]
      exact h.alive p
    · rw [update_of_ne hq]
      exact h.alive q

/-! ## What a reference points to after each operation -/

lemma obj_release (hq : 0 < (s.release o).refCount q) : (s.release o).obj q = s.obj q := by
  cases o with
  | none => rfl
  | some p =>
    change (if s.refCount p = 1 then update s.obj p none else s.obj) q = _
    change 0 < update s.refCount p (s.refCount p - 1) q at hq
    split
    · rename_i hone
      refine update_of_ne ?_ _ _
      rintro rfl
      rw [update_self, hone] at hq
      exact absurd hq (lt_irrefl 0)
    · rfl

@[simp] lemma ptr_addRef : (s.addRef o).ptr = s.ptr := by cases o <;> rfl

@[simp] lemma obj_addRef : (s.addRef o).obj = s.obj := by cases o <;> rfl

@[simp] lemma ptr_release : (s.release o).ptr = s.ptr := by cases o <;> rfl

section Transfer
variable [DecidableEq V]

@[simp] lemma ptr_point : (s.point v o).ptr = update s.ptr v o := rfl

@[simp] lemma obj_point : (s.point v o).obj = s.obj := rfl

@[simp] lemma ptr_put : (s.put v o).ptr = update s.ptr v o := by
  unfold put
  simp

@[simp] lemma ptr_assign : (s.assign v o).ptr = update s.ptr v o := by
  unfold Counted.assign
  simp

@[simp] lemma ptr_renew : (s.renew v p a).ptr = update s.ptr v (some p) := by
  unfold Counted.renew
  rw [ptr_assign]
  rfl

@[simp] lemma ptr_move : (s.move v w).ptr = update (update s.ptr w none) v (s.ptr w) := by
  unfold Counted.move
  simp

@[simp] lemma ptr_swap : (s.swap v w).ptr = s.ptr ∘ Equiv.swap v w := by
  unfold Counted.swap
  rw [ptr_put, ptr_move, ptr_point]
  funext u
  rw [comp_apply, Equiv.swap_apply_def]
  simp only [update_apply]
  by_cases hv : u = v
  · by_cases hw : u = w
    · rw [if_pos hw, if_pos hv, ← hw, hv]
    · rw [if_neg hw, if_pos hv, if_pos hv, if_neg fun h => hw (hv.trans h.symm)]
  · by_cases hw : u = w
    · rw [if_pos hw, if_neg hv, if_pos hw]
    · rw [if_neg hw, if_neg hv, if_neg hw, if_neg hv, if_neg hv, if_neg hw]

/-- Whoever takes over a reference leaves the others what they had. -/
lemma Sound.value_put (h : s.Sound (o :: t)) :
    (s.put v o).value u = if u = v then o.bind s.obj else s.value u := by
  have hput : (s.put v o).Sound t := h.put
  have hvalue : (s.put v o).value u = (update s.ptr v o u).bind s.obj := by
    unfold value
    rw [ptr_put]
    cases hu : update s.ptr v o u with
    | none => rfl
    | some q =>
      have hpos := hput.refCount_pos (u := u) (q := q) (by rw [ptr_put, hu])
      rw [put_eq] at hpos ⊢
      exact obj_release hpos
  rw [hvalue]
  by_cases hu : u = v
  · rw [if_pos hu, hu, update_self]
  · rw [if_neg hu, update_of_ne hu, value]

/-- What is on its way is not deleted meanwhile. -/
lemma Sound.bind_put {x : Option Nat} (h : s.Sound (o :: x :: t)) :
    x.bind (s.put v o).obj = x.bind s.obj := by
  have hput : (s.put v o).Sound (x :: t) := h.put
  cases x with
  | none => rfl
  | some q =>
    have hpos := hput.refCount_pos_of_mem (List.mem_cons_self ..)
    rw [put_eq] at hpos ⊢
    exact obj_release hpos

theorem Sound.value_assign (h : s.Sound t) (ho : ∀ p, o = some p → (s.obj p).isSome) :
    (s.assign v o).value u = if u = v then o.bind s.obj else s.value u := by
  refine (h.addRef ho).value_put.trans ?_
  simp only [value, obj_addRef, ptr_addRef]

theorem Sound.value_renew (h : s.Sound t) (hp : s.obj p = none) :
    (s.renew v p a).value u = if u = v then some a else s.value u := by
  refine (h.create hp).value_put.trans ?_
  simp only [value, obj_addRef, ptr_addRef]
  change (if u = v then update s.obj p (some a) p else (s.ptr u).bind (update s.obj p (some a))) = _
  rw [update_self]
  congr 1
  cases hu : s.ptr u with
  | none => rfl
  | some q =>
    refine update_of_ne ?_ _ _
    rintro rfl
    exact h.ptr_ne hp hu

lemma value_point_none : (s.point w none).value u = if u = w then none else s.value u := by
  unfold value
  by_cases hu : u = w
  · simp [hu]
  · simp [hu]

theorem Sound.value_move (h : s.Sound t) :
    (s.move v w).value u = if u = v then s.value w else if u = w then none else s.value u := by
  refine (sound_none.mpr h).point.value_put.trans ?_
  rw [value_point_none]
  rfl

theorem Sound.value_swap (h : s.Sound t) :
    (s.swap v w).value u = s.value (Equiv.swap v w u) := by
  have hpoint : (s.point v none).Sound (s.ptr v :: t) := (sound_none.mpr h).point
  have hkept : (s.ptr v).bind ((s.point v none).move v w).obj = s.value v :=
    (sound_none.mpr hpoint).point.bind_put
  refine hpoint.move.value_put.trans ?_
  rw [hkept, hpoint.value_move, value_point_none, value_point_none, Equiv.swap_apply_def]
  by_cases hv : u = v
  · by_cases hw : u = w
    · rw [if_pos hw, if_pos hv, ← hw, hv]
    · rw [if_neg hw, if_pos hv, if_pos hv, if_neg fun h => hw (hv.trans h.symm)]
  · by_cases hw : u = w
    · rw [if_pos hw, if_neg hv, if_pos hw]
    · rw [if_neg hw, if_neg hv, if_neg hw, if_neg hv, if_neg hv, if_neg hw]

end Transfer

@[simp] lemma ptr_modify : (s.modify v f).ptr = s.ptr := by
  unfold Counted.modify
  split <;> rfl

lemma modify_of_none (hv : s.ptr v = none) : s.modify v f = s := by
  unfold Counted.modify
  rw [hv]

lemma Sound.value_eq_none (h : s.Sound t) : s.value u = none ↔ s.ptr u = none := by
  rw [← Option.not_isSome_iff_eq_none, ← Option.not_isSome_iff_eq_none, h.value_isSome]

/-- The count of an object is one if nothing else points to it. -/
theorem Sound.hasOneRef_iff (h : s.Sound []) :
    s.hasOneRef v ↔ ∃ p, s.ptr v = some p ∧ ∀ u, s.ptr u = some p → u = v := by
  unfold hasOneRef
  cases hv : s.ptr v with
  | none => simp
  | some p =>
    have hcounted := h.counted p
    rw [List.count_nil, Nat.cast_zero, add_zero] at hcounted
    rw [Option.any_some, beq_iff_eq, ← Nat.cast_inj (R := ℕ∞), ← hcounted, Nat.cast_one,
      Set.encard_eq_one]
    constructor
    · rintro ⟨x, hx⟩
      have hvx : v ∈ {u | s.ptr u = some p} := hv
      rw [hx] at hvx
      refine ⟨p, rfl, fun u hu => ?_⟩
      have hux : u ∈ {u | s.ptr u = some p} := hu
      rw [hx] at hux
      exact hux.trans hvx.symm
    · rintro ⟨q, hq, hall⟩
      rw [← Option.some.inj hq] at hall
      exact ⟨v, Set.eq_singleton_iff_unique_mem.mpr ⟨hv, hall⟩⟩

/-- A new object has one reference, and takes none from an object with one. -/
lemma Sound.hasOneRef_renew [DecidableEq V] (h : s.Sound []) (hp : s.obj p = none)
    (hu : u = v ∨ s.hasOneRef u) : (s.renew v p a).hasOneRef u := by
  rw [(h.renew hp).hasOneRef_iff, ptr_renew]
  by_cases huv : u = v
  · subst huv
    refine ⟨p, update_self .., fun z hz => by_contra fun hne => ?_⟩
    rw [update_of_ne hne] at hz
    exact h.ptr_ne hp hz
  · obtain ⟨q, hq, hall⟩ := h.hasOneRef_iff.mp (hu.resolve_left huv)
    refine ⟨q, by rw [update_of_ne huv, hq], fun z hz => ?_⟩
    by_cases hzv : z = v
    · rw [hzv, update_self] at hz
      exact (h.ptr_ne hp (hq.trans hz.symm)).elim
    · exact hall z (by rwa [update_of_ne hzv] at hz)

/-- A write to an object with one reference is seen through that reference only. -/
theorem Sound.value_modify [DecidableEq V] (h : s.Sound []) (hone : s.hasOneRef v) :
    (s.modify v f).value u = if u = v then (s.value v).map f else s.value u := by
  unfold Counted.modify value
  cases hv : s.ptr v with
  | none => simp [hasOneRef, hv] at hone
  | some p =>
    change (s.ptr u).bind (update s.obj p ((s.obj p).map f)) = _
    split
    · rename_i hu
      rw [hu, hv, Option.bind_some, Option.bind_some, update_self]
    · rename_i hu
      cases huq : s.ptr u with
      | none => rfl
      | some q =>
        refine update_of_ne ?_ _ _
        rintro rfl
        obtain ⟨q, hq, hall⟩ := h.hasOneRef_iff.mp hone
        exact hu (hall u (huq.trans (hv.symm.trans hq)))

end Counted

end XrtcServer.Core
