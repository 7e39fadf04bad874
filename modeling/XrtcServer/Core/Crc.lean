import Mathlib

/-!
# Cyclic redundancy checks

A check of width `w` is a register of `w` bits into which a message is fed bit by bit. The register
is kept in reversed form: its lowest bit is the coefficient of the highest power. The file proves
that the register is the remainder of a division of polynomials over the field of two elements,
that feeding many bits at once can be split by a table, and that no burst of errors that is as short
as the register leaves it as it was.
-/

namespace XrtcServer.Core.Crc
open Polynomial

variable {w : Nat} (p : BitVec w)

/-- One step of the register: the bit that falls out decides whether `p` is added. -/
def shift (c : BitVec w) : BitVec w := if c.getLsbD 0 then p ^^^ (c >>> 1) else c >>> 1

/-- A bit in the lowest place. -/
def low (w : Nat) (b : Bool) : BitVec w := (BitVec.ofBool b).setWidth w

def feed (c : BitVec w) (b : Bool) : BitVec w := shift p (c ^^^ low w b)

def feedBits (c : BitVec w) (bs : List Bool) : BitVec w := bs.foldl (feed p) c

/-- Bits in the lowest places, the first one lowest. -/
def pack (w : Nat) : List Bool → BitVec w
  | [] => 0#w
  | b :: bs => low w b ^^^ (pack w bs <<< 1)

variable {p} {a b c x y : BitVec w} {as bs : List Bool} {i k : Nat}

/-! ## The register is linear -/

lemma getLsbD_shift (c : BitVec w) (i : Nat) :
    (shift p c).getLsbD i = (c.getLsbD (i + 1) ^^ (c.getLsbD 0 && p.getLsbD i)) := by
  unfold shift
  split
  · rename_i h
    simp [h, Nat.add_comm 1 i, Bool.xor_comm]
  · rename_i h
    simp [h, Nat.add_comm 1 i]

lemma shift_xor (a b : BitVec w) : shift p (a ^^^ b) = shift p a ^^^ shift p b := by
  apply BitVec.eq_of_getLsbD_eq
  intro i _
  simp only [getLsbD_shift, BitVec.getLsbD_xor]
  cases a.getLsbD (i + 1) <;> cases b.getLsbD (i + 1) <;> cases a.getLsbD 0 <;>
    cases b.getLsbD 0 <;> cases p.getLsbD i <;> rfl

@[simp] lemma shift_zero : shift p 0#w = 0#w := by
  apply BitVec.eq_of_getLsbD_eq
  intro i _
  simp [getLsbD_shift]

lemma iterate_shift_xor (k : Nat) (a b : BitVec w) :
    (shift p)^[k] (a ^^^ b) = (shift p)^[k] a ^^^ (shift p)^[k] b := by
  induction k generalizing a b with
  | zero => rfl
  | succ k ih => rw [Function.iterate_succ_apply, shift_xor, ih]; rfl

lemma iterate_shift_zero (k : Nat) : (shift p)^[k] 0#w = 0#w :=
  Function.iterate_fixed shift_zero k

lemma low_xor (b b' : Bool) : low w (b ^^ b') = low w b ^^^ low w b' := by
  cases b <;> cases b' <;> simp [low]

@[simp] lemma low_false : low w false = 0#w := by simp [low]

@[simp] lemma feedBits_cons (c : BitVec w) (b : Bool) (bs : List Bool) :
    feedBits p c (b :: bs) = feedBits p (feed p c b) bs := rfl

lemma feedBits_append (c : BitVec w) (as bs : List Bool) :
    feedBits p c (as ++ bs) = feedBits p (feedBits p c as) bs := List.foldl_append

/-- Two messages of one length: the difference of what they leave is what their difference leaves. -/
theorem feedBits_xor (h : as.length = bs.length) (a b : BitVec w) :
    feedBits p (a ^^^ b) (List.zipWith xor as bs) = feedBits p a as ^^^ feedBits p b bs := by
  induction as generalizing a b bs with
  | nil =>
    obtain rfl := List.eq_nil_of_length_eq_zero h.symm
    rfl
  | cons x as ih =>
    cases bs with
    | nil => cases h
    | cons y bs =>
      have hfeed : feed p (a ^^^ b) (x ^^ y) = feed p a x ^^^ feed p b y := by
        rw [feed, feed, feed, ← shift_xor, low_xor]
        congr 1
        simp only [BitVec.xor_assoc]
        rw [← BitVec.xor_assoc b, BitVec.xor_comm b, BitVec.xor_assoc]
      rw [List.zipWith_cons_cons, feedBits_cons, hfeed, ih (Nat.succ.inj h)]
      rfl

lemma feedBits_replicate_false (c : BitVec w) (k : Nat) :
    feedBits p c (List.replicate k false) = (shift p)^[k] c := by
  induction k generalizing c with
  | zero => rfl
  | succ k ih =>
    rw [List.replicate_succ, feedBits_cons, ih, feed, low_false, BitVec.xor_zero]
    rfl

/-! ## Several bits at once -/

/-- As long as no bit falls out, the register only moves. -/
lemma iterate_shift_eq_ushiftRight (h : ∀ i < k, y.getLsbD i = false) :
    (shift p)^[k] y = y >>> k := by
  induction k with
  | zero => simp
  | succ k ih =>
    rw [Function.iterate_succ_apply', ih fun i hi => h i (by omega), shift, if_neg,
      ← BitVec.shiftRight_add]
    simpa using h k (by omega)

/-- The bits that fall out can be looked up in a table: they and the rest go separate ways. -/
theorem iterate_shift_split (k : Nat) (x mask : BitVec w)
    (hmask : ∀ i < w, mask.getLsbD i = decide (i < k)) :
    (shift p)^[k] x = (shift p)^[k] (x &&& mask) ^^^ (x >>> k) := by
  have hsplit : x = (x &&& mask) ^^^ (x &&& ~~~mask) := by
    apply BitVec.eq_of_getLsbD_eq
    intro i hi
    simp only [BitVec.getLsbD_xor, BitVec.getLsbD_and, BitVec.getLsbD_not, hi, decide_true,
      Bool.true_and]
    cases x.getLsbD i <;> cases mask.getLsbD i <;> rfl
  have hlow : ∀ i < k, (x &&& ~~~mask).getLsbD i = false := by
    intro i hi
    by_cases hw : i < w
    · simp [hmask i hw, hi]
    · exact BitVec.getLsbD_of_ge _ _ (Nat.le_of_not_lt hw)
  have hhigh : (x &&& ~~~mask) >>> k = x >>> k := by
    apply BitVec.eq_of_getLsbD_eq
    intro i _
    simp only [BitVec.getLsbD_ushiftRight, BitVec.getLsbD_and, BitVec.getLsbD_not]
    by_cases hw : k + i < w
    · rw [hmask _ hw]
      simp [hw]
    · simp [BitVec.getLsbD_of_ge x (k + i) (Nat.le_of_not_lt hw)]
  conv_lhs => rw [hsplit]
  rw [iterate_shift_xor, iterate_shift_eq_ushiftRight hlow, hhigh]

lemma getLsbD_low (b : Bool) (i : Nat) (hi : i < w) : (low w b).getLsbD i = (decide (i = 0) && b) := by
  rw [low, BitVec.getLsbD_setWidth, decide_eq_true hi, Bool.true_and]
  cases i with
  | zero => simp
  | succ i => simp [BitVec.getLsbD_of_ge]

lemma getLsbD_pack (bs : List Bool) (i : Nat) (hi : i < w) :
    (pack w bs).getLsbD i = bs.getD i false := by
  induction bs generalizing i with
  | nil => simp [pack]
  | cons b bs ih =>
    rw [pack, BitVec.getLsbD_xor, getLsbD_low b i hi, BitVec.getLsbD_shiftLeft]
    cases i with
    | zero => simp
    | succ i => simp [ih i (by omega), hi]

/-- Bits that fit the register can be added all at once before it moves. -/
theorem feedBits_eq_iterate (hbs : bs.length ≤ w) (c : BitVec w) :
    feedBits p c bs = (shift p)^[bs.length] (c ^^^ pack w bs) := by
  induction bs generalizing c with
  | nil => simp [feedBits, pack]
  | cons b bs ih =>
    rw [List.length_cons] at hbs
    have hpack : shift p (pack w bs <<< 1) = pack w bs := by
      apply BitVec.eq_of_getLsbD_eq
      intro i hi
      rw [getLsbD_shift, BitVec.getLsbD_shiftLeft, BitVec.getLsbD_shiftLeft]
      simp only [Nat.add_sub_cancel, Nat.zero_lt_one, decide_true, Bool.not_true, Bool.and_false,
        Bool.false_and, Bool.xor_false]
      by_cases hw : i + 1 < w
      · simp [hw]
      · rw [getLsbD_pack bs i hi, List.getD_eq_default _ _ (by omega)]
        simp [hw]
    rw [feedBits_cons, ih (by omega), List.length_cons, Function.iterate_succ_apply, feed, pack,
      ← BitVec.xor_assoc, shift_xor _ (pack w bs <<< 1), hpack]

/-! ## Errors -/

/-- With the highest bit of `p` set no two registers move to the same one. -/
theorem shift_injective (hp : p.getLsbD (w - 1) = true) : Function.Injective (shift p) := by
  intro a b h
  have hw : 0 < w := by
    by_contra hw
    obtain rfl : w = 0 := by omega
    simp [BitVec.getLsbD_of_ge] at hp
  have hbit : ∀ i, (a.getLsbD (i + 1) ^^ (a.getLsbD 0 && p.getLsbD i)) =
      (b.getLsbD (i + 1) ^^ (b.getLsbD 0 && p.getLsbD i)) := by
    intro i
    rw [← getLsbD_shift, ← getLsbD_shift, h]
  have hzero : a.getLsbD 0 = b.getLsbD 0 := by
    have htop := hbit (w - 1)
    rw [hp, BitVec.getLsbD_of_ge a (w - 1 + 1) (by omega),
      BitVec.getLsbD_of_ge b (w - 1 + 1) (by omega)] at htop
    simpa using htop
  apply BitVec.eq_of_getLsbD_eq
  intro i _
  cases i with
  | zero => exact hzero
  | succ i =>
    have hi := hbit i
    rw [hzero] at hi
    exact Bool.xor_left_inj.mp hi

/-- A burst of errors no longer than the register, with anything correct around it. -/
def burst (before after : Nat) (bs : List Bool) : List Bool :=
  List.replicate before false ++ bs ++ List.replicate after false

/-- A burst that is as short as the register changes it. -/
theorem feedBits_burst_ne_zero (hp : p.getLsbD (w - 1) = true) (hbs : bs.length ≤ w)
    (herr : true ∈ bs) (before after : Nat) : feedBits p 0#w (burst before after bs) ≠ 0#w := by
  have hpack : pack w bs ≠ 0#w := by
    intro hzero
    obtain ⟨i, hi, hbit⟩ := List.mem_iff_getElem.mp herr
    have hget := getLsbD_pack bs i (by omega : i < w)
    rw [hzero, List.getD_eq_getElem _ _ hi, hbit] at hget
    simp at hget
  have hinj := fun k => (shift_injective hp).iterate k
  rw [burst, feedBits_append, feedBits_append, feedBits_replicate_false 0#w, iterate_shift_zero,
    feedBits_replicate_false, feedBits_eq_iterate hbs, BitVec.zero_xor]
  intro h
  rw [← iterate_shift_zero (p := p) after] at h
  have h' := hinj _ h
  rw [← iterate_shift_zero (p := p) bs.length] at h'
  exact hpack (hinj _ h')

/-- Two messages that differ by such a burst leave different registers. -/
theorem feedBits_ne_of_burst (hp : p.getLsbD (w - 1) = true) (hbs : bs.length ≤ w)
    (herr : true ∈ bs) {before after : Nat} {ms ms' : List Bool} (hlen : ms.length = ms'.length)
    (hdiff : List.zipWith xor ms ms' = burst before after bs) (c : BitVec w) :
    feedBits p c ms ≠ feedBits p c ms' := by
  intro h
  have hxor := feedBits_xor (p := p) hlen c c
  rw [hdiff, h, BitVec.xor_self, BitVec.xor_self] at hxor
  exact feedBits_burst_ne_zero hp hbs herr before after hxor

/-- Two messages of one length differ in `n` places from `k` on at most. -/
def DifferWithin (k n : Nat) (ms ms' : List Bool) : Prop :=
  ms.length = ms'.length ∧ ∀ i, ms[i]? ≠ ms'[i]? → k ≤ i ∧ i < k + n

lemma DifferWithin.left {n : Nat} {ms ms' ns ns' : List Bool}
    (h : DifferWithin k n (ms ++ ns) (ms' ++ ns')) (hlen : ms.length = ms'.length) :
    DifferWithin k n ms ms' := by
  refine ⟨hlen, fun i hi => h.2 i ?_⟩
  by_cases hlt : i < ms.length
  · rwa [List.getElem?_append_left hlt, List.getElem?_append_left (hlen ▸ hlt)]
  · rw [List.getElem?_eq_none (by omega), List.getElem?_eq_none (by omega)] at hi
    exact absurd rfl hi

/-- Replacing a few bits differs in these at most. -/
lemma differWithin_replace {n : Nat} {xs ys : List Bool} (ms : List Bool)
    (hlen : xs.length = ys.length) (hn : xs.length ≤ n) (ns : List Bool) :
    DifferWithin ms.length n (ms ++ xs ++ ns) (ms ++ ys ++ ns) := by
  refine ⟨by simp [hlen], fun i hi => ?_⟩
  by_contra hout
  apply hi
  rw [List.append_assoc, List.append_assoc]
  by_cases hlt : i < ms.length
  · rw [List.getElem?_append_left hlt, List.getElem?_append_left hlt]
  · rw [List.getElem?_append_right (by omega), List.getElem?_append_right (by omega),
      List.getElem?_append_right (by omega), List.getElem?_append_right (by omega), hlen]

lemma exists_differ {ms ms' : List Bool} (hlen : ms.length = ms'.length) (hne : ms ≠ ms') :
    ∃ i < ms.length, ms[i]? ≠ ms'[i]? := by
  by_contra hall
  push Not at hall
  apply hne
  apply List.ext_getElem? fun i => ?_
  by_cases hlt : i < ms.length
  · exact hall i hlt
  · rw [List.getElem?_eq_none (by omega), List.getElem?_eq_none (by omega)]

lemma DifferWithin.differ {n i : Nat} {ms ms' : List Bool} (h : DifferWithin k n ms ms')
    (hi : (List.zipWith xor ms ms')[i]? = some true) : k ≤ i ∧ i < k + n := by
  apply h.2 i
  intro heq
  rw [List.getElem?_zipWith, ← heq] at hi
  cases hget : ms[i]? <;> simp [hget] at hi

/-- What two messages differ in, if it is short enough, is a burst. -/
lemma DifferWithin.burst {n : Nat} {ms ms' : List Bool} (h : DifferWithin k n ms ms') :
    ∃ before after bs, bs.length ≤ n ∧ List.zipWith xor ms ms' = burst before after bs := by
  obtain ⟨d, hd⟩ : ∃ d, d = List.zipWith xor ms ms' := ⟨_, rfl⟩
  have hfront : ∀ b ∈ d.take k, b = false := by
    intro b hb
    obtain ⟨i, hi⟩ := List.mem_iff_getElem?.mp hb
    rw [List.getElem?_take] at hi
    split at hi
    · cases b with
      | false => rfl
      | true =>
        have hk := (h.differ (hd ▸ hi)).1
        omega
    · cases hi
  have hback : ∀ b ∈ (d.drop k).drop n, b = false := by
    intro b hb
    obtain ⟨i, hi⟩ := List.mem_iff_getElem?.mp hb
    rw [List.getElem?_drop, List.getElem?_drop] at hi
    cases b with
    | false => rfl
    | true =>
      have hn := (h.differ (hd ▸ hi)).2
      omega
  refine ⟨(d.take k).length, ((d.drop k).drop n).length, (d.drop k).take n,
    List.length_take_le _ _, ?_⟩
  rw [← hd, Crc.burst, ← List.eq_replicate_of_mem hfront, ← List.eq_replicate_of_mem hback,
    List.append_assoc, List.take_append_drop, List.take_append_drop]

/-- Messages that differ, but not in places further apart than the register is wide, leave different
registers. -/
theorem feedBits_ne_of_differWithin (hp : p.getLsbD (w - 1) = true) {ms ms' : List Bool}
    (h : DifferWithin k w ms ms') (hne : ms ≠ ms') (c : BitVec w) :
    feedBits p c ms ≠ feedBits p c ms' := by
  obtain ⟨before, after, bs, hlen, hdiff⟩ := h.burst
  refine feedBits_ne_of_burst hp hlen (by_contra fun herr => ?_) h.1 hdiff c
  obtain ⟨i, hlt, hi⟩ := exists_differ h.1 hne
  have htrue : (List.zipWith xor ms ms')[i]? = some true := by
    have hlt' : i < ms'.length := h.1 ▸ hlt
    rw [List.getElem?_eq_getElem hlt, List.getElem?_eq_getElem hlt', ne_eq, Option.some_inj] at hi
    rw [List.getElem?_zipWith, List.getElem?_eq_getElem hlt, List.getElem?_eq_getElem hlt']
    simpa using hi
  rw [hdiff] at htrue
  have hmem := List.mem_of_getElem? htrue
  rw [Crc.burst, List.mem_append, List.mem_append] at hmem
  rcases hmem with (hmem | hmem) | hmem
  · cases List.eq_of_mem_replicate hmem
  · exact herr hmem
  · cases List.eq_of_mem_replicate hmem

/-! ## The register as a remainder -/

/-- A bit as an element of the field. -/
def bit (b : Bool) : ZMod 2 := if b then 1 else 0

lemma bit_xor (b b' : Bool) : bit (b ^^ b') = bit b + bit b' := by
  cases b <;> cases b' <;> decide

/-- The polynomial that a register stands for. -/
noncomputable def toPoly (c : BitVec w) : (ZMod 2)[X] :=
  ∑ i ∈ Finset.range w, C (bit (c.getLsbD i)) * X ^ (w - 1 - i)

/-- The polynomial of a message, the first bit having the highest power. -/
noncomputable def message : List Bool → (ZMod 2)[X]
  | [] => 0
  | b :: bs => C (bit b) * X ^ bs.length + message bs

/-- The polynomial by which messages are divided. -/
noncomputable def generator (p : BitVec w) : (ZMod 2)[X] := X ^ w + toPoly p

lemma toPoly_xor (a b : BitVec w) : toPoly (a ^^^ b) = toPoly a + toPoly b := by
  rw [toPoly, toPoly, toPoly, ← Finset.sum_add_distrib]
  refine Finset.sum_congr rfl fun i _ => ?_
  rw [BitVec.getLsbD_xor, bit_xor, C_add, add_mul]

lemma degree_toPoly_lt (c : BitVec w) : (toPoly c).degree < w := by
  refine (degree_sum_le _ _).trans_lt ?_
  refine (Finset.sup_lt_iff (WithBot.bot_lt_coe w)).mpr fun i hi => ?_
  have hlt : w - 1 - i < w := by
    have := Finset.mem_range.mp hi
    omega
  exact (degree_C_mul_X_pow_le _ _).trans_lt (WithBot.coe_lt_coe.mpr hlt)

lemma monic_generator (p : BitVec w) : (generator p).Monic :=
  monic_X_pow_add (degree_toPoly_lt p)

lemma degree_generator (p : BitVec w) : (generator p).degree = w :=
  (degree_add_eq_left_of_degree_lt ((degree_toPoly_lt p).trans_eq (degree_X_pow w).symm)).trans
    (degree_X_pow w)

lemma toPoly_low (hw : 0 < w) (b : Bool) : toPoly (low w b) = C (bit b) * X ^ (w - 1) := by
  rw [toPoly, Finset.sum_eq_single_of_mem 0 (Finset.mem_range.mpr hw), getLsbD_low b 0 hw]
  · simp
  · intro i hi hne
    rw [getLsbD_low b i (Finset.mem_range.mp hi)]
    simp [hne, bit]

lemma toPoly_ushiftRight (c : BitVec w) :
    toPoly (c >>> 1) = X * toPoly c + C (bit (c.getLsbD 0)) * X ^ w := by
  cases w with
  | zero => simp [toPoly, BitVec.getLsbD_of_ge, bit]
  | succ n =>
    have hlast : (c >>> 1).getLsbD n = false := by
      rw [BitVec.getLsbD_ushiftRight]
      exact BitVec.getLsbD_of_ge _ _ (by omega)
    have htwo : C (bit (c.getLsbD 0)) * X ^ (n + 1) + C (bit (c.getLsbD 0)) * X ^ (n + 1) =
        (0 : (ZMod 2)[X]) := CharTwo.add_self_eq_zero _
    rw [toPoly, toPoly, Finset.sum_range_succ, Finset.sum_range_succ', hlast, mul_add,
      Finset.mul_sum]
    simp only [bit, Bool.false_eq_true, if_false, C_0, zero_mul, add_zero]
    rw [add_assoc, show X * (C (if c.getLsbD 0 = true then (1 : ZMod 2) else 0) *
      X ^ (n + 1 - 1 - 0)) = C (bit (c.getLsbD 0)) * X ^ (n + 1) by
        rw [bit, Nat.add_sub_cancel, Nat.sub_zero]; ring]
    rw [← bit, htwo, add_zero]
    refine Finset.sum_congr rfl fun i hi => ?_
    have hlt := Finset.mem_range.mp hi
    rw [BitVec.getLsbD_ushiftRight, Nat.add_comm 1 i,
      show n + 1 - 1 - i = n + 1 - 1 - (i + 1) + 1 by omega]
    ring

/-- A step multiplies by the variable, modulo the generator. -/
lemma toPoly_shift (c : BitVec w) :
    toPoly (shift p c) = X * toPoly c + C (bit (c.getLsbD 0)) * generator p := by
  unfold shift
  cases hbit : c.getLsbD 0 with
  | false =>
    have hshift := toPoly_ushiftRight c
    rw [hbit] at hshift
    simpa [bit] using hshift
  | true =>
    have hshift := toPoly_ushiftRight c
    rw [hbit] at hshift
    rw [if_pos rfl, toPoly_xor, hshift, generator, bit, if_pos rfl, C_1]
    ring

lemma generator_dvd_feedBits (hw : 0 < w) (c : BitVec w) (bs : List Bool) :
    generator p ∣ toPoly (feedBits p c bs) - (X ^ bs.length * toPoly c + X ^ w * message bs) := by
  induction bs generalizing c with
  | nil => simp [feedBits, message]
  | cons b bs ih =>
    have hfeed : toPoly (feed p c b) = X * toPoly c + C (bit b) * X ^ w +
        C (bit ((c ^^^ low w b).getLsbD 0)) * generator p := by
      rw [feed, toPoly_shift, toPoly_xor, toPoly_low hw, mul_add, mul_left_comm, ← pow_succ',
        Nat.sub_add_cancel hw]
    have hsplit : toPoly (feedBits p c (b :: bs)) -
        (X ^ (b :: bs).length * toPoly c + X ^ w * message (b :: bs)) =
          (toPoly (feedBits p (feed p c b) bs) -
            (X ^ bs.length * toPoly (feed p c b) + X ^ w * message bs)) +
          generator p * (X ^ bs.length * C (bit ((c ^^^ low w b).getLsbD 0))) := by
      rw [feedBits_cons, hfeed, message, List.length_cons]
      ring
    rw [hsplit]
    exact dvd_add (ih _) (dvd_mul_right _ _)

/-- What is left in the register is the remainder of the message, moved up by the width, and of what
was in the register before. -/
theorem toPoly_feedBits (hw : 0 < w) (c : BitVec w) (bs : List Bool) :
    toPoly (feedBits p c bs) =
      (X ^ bs.length * toPoly c + X ^ w * message bs) %ₘ generator p := by
  have hmonic := monic_generator p
  have hlt : (toPoly (feedBits p c bs)).degree < (generator p).degree := by
    rw [degree_generator]
    exact degree_toPoly_lt _
  calc toPoly (feedBits p c bs) = toPoly (feedBits p c bs) %ₘ generator p :=
        ((modByMonic_eq_self_iff hmonic).mpr hlt).symm
    _ = (X ^ bs.length * toPoly c + X ^ w * message bs) %ₘ generator p :=
        modByMonic_eq_of_dvd_sub hmonic (generator_dvd_feedBits hw c bs)

end XrtcServer.Core.Crc
