import XrtcServer.Base.Bytes
import XrtcServer.Core.Crc

/-!
# CRC32

`UpdateCrc32` takes eight bits at a time from a table. The file proves that it is the cyclic
redundancy check of the bits in the order in which they are sent, the lowest bit of an octet first,
that a checksum can be continued, and that it notices every burst of errors of up to 32 bits.
-/

namespace XrtcServer.Base
open Core.Crc Polynomial

/-- The polynomial in reversed form. -/
def kCrc32Polynomial : UInt32 := 0xEDB88320

/-- The inner loop of `LoadCrc32Table` for one bit. -/
def crc32TableBit (c : UInt32) : UInt32 :=
  if c &&& 1 ≠ 0 then kCrc32Polynomial ^^^ (c >>> 1) else c >>> 1

/-- `LoadCrc32Table` -/
def kCrc32Table : Vector UInt32 256 :=
  Vector.ofFn fun i => crc32TableBit^[8] (UInt32.ofNat i)

lemma index_lt (c : UInt32) : (c &&& 0xFF).toNat < 256 := by
  rw [UInt32.toNat_and]
  exact Nat.lt_succ_of_le Nat.and_le_right

/-- The loop of `UpdateCrc32` for one octet. -/
def crc32Octet (c : UInt32) (u : UInt8) : UInt32 :=
  kCrc32Table.get ⟨_, index_lt (c ^^^ u.toUInt32)⟩ ^^^ (c >>> 8)

/-- `UpdateCrc32` -/
def updateCrc32 (start : UInt32) (buf : Bytes) : UInt32 :=
  buf.foldl crc32Octet (start ^^^ 0xFFFFFFFF) ^^^ 0xFFFFFFFF

def computeCrc32 (buf : Bytes) : UInt32 := updateCrc32 0 buf

example : computeCrc32 [49, 50, 51, 52, 53, 54, 55, 56, 57] = 0xCBF43926 := by decide +kernel

/-- The bits of an octet, the lowest one first. -/
def octetBits (u : UInt8) : List Bool := (List.range 8).map u.toBitVec.getLsbD

/-- The bits of octets in the order in which they are checked. -/
def wireBits (l : Bytes) : List Bool := l.flatMap octetBits

variable {a b : Bytes}

/-! ## The table -/

lemma toBitVec_crc32TableBit (c : UInt32) :
    (crc32TableBit c).toBitVec = shift kCrc32Polynomial.toBitVec c.toBitVec := by
  have hbit : c &&& 1 ≠ 0 ↔ c.toBitVec.getLsbD 0 = true := by
    rw [ne_eq, ← UInt32.toBitVec_inj, UInt32.toBitVec_and, UInt32.toBitVec_one]
    rw [BitVec.and_one_eq_setWidth_ofBool_getLsbD]
    cases c.toBitVec.getLsbD 0 <;> decide
  have hmove : (c >>> 1).toBitVec = c.toBitVec >>> 1 := rfl
  unfold crc32TableBit shift
  by_cases h : c &&& 1 ≠ 0
  · rw [if_pos h, if_pos (hbit.mp h), UInt32.toBitVec_xor, hmove]
  · rw [if_neg h, if_neg (hbit.not.mp h), hmove]

lemma toBitVec_iterate (k : Nat) (c : UInt32) :
    (crc32TableBit^[k] c).toBitVec = (shift kCrc32Polynomial.toBitVec)^[k] c.toBitVec := by
  induction k generalizing c with
  | zero => rfl
  | succ k ih =>
    rw [Function.iterate_succ_apply, Function.iterate_succ_apply, ih, toBitVec_crc32TableBit]

@[simp] lemma length_octetBits (u : UInt8) : (octetBits u).length = 8 := by simp [octetBits]

lemma pack_octetBits (u : UInt8) : pack 32 (octetBits u) = u.toUInt32.toBitVec := by
  apply BitVec.eq_of_getLsbD_eq
  intro i hi
  rw [getLsbD_pack _ i hi, UInt8.toBitVec_toUInt32, BitVec.getLsbD_setWidth, octetBits]
  by_cases h : i < 8
  · simp [h, hi]
  · rw [List.getD_eq_default _ _ (by simpa using h), BitVec.getLsbD_of_ge _ _ (by omega),
      Bool.and_false]

/-- The table does eight steps of the register. -/
lemma toBitVec_crc32Octet (c : UInt32) (u : UInt8) :
    (crc32Octet c u).toBitVec =
      feedBits kCrc32Polynomial.toBitVec c.toBitVec (octetBits u) := by
  have hmask : ∀ i < 32, (0xFF : UInt32).toBitVec.getLsbD i = decide (i < 8) := by decide
  have htable : kCrc32Table.get ⟨_, index_lt (c ^^^ u.toUInt32)⟩ =
      crc32TableBit^[8] ((c ^^^ u.toUInt32) &&& 0xFF) := by
    have hlt := index_lt (c ^^^ u.toUInt32)
    rw [kCrc32Table]
    change (Vector.ofFn fun i : Fin 256 => crc32TableBit^[8] (UInt32.ofNat i))[
      ((c ^^^ u.toUInt32) &&& 0xFF).toNat] = _
    rw [Vector.getElem_ofFn, UInt32.ofNat_toNat]
  have hrest : (c.toBitVec ^^^ u.toUInt32.toBitVec) >>> 8 = c.toBitVec >>> 8 := by
    rw [BitVec.ushiftRight_xor_distrib, UInt8.toBitVec_toUInt32]
    have hoctet : u.toBitVec.setWidth 32 >>> 8 = 0#32 := by
      apply BitVec.eq_of_getLsbD_eq
      intro i _
      rw [BitVec.getLsbD_ushiftRight, BitVec.getLsbD_setWidth, BitVec.getLsbD_of_ge _ _ (by omega),
        Bool.and_false, BitVec.getLsbD_zero]
    rw [hoctet, BitVec.xor_zero]
  rw [feedBits_eq_iterate (by simp), length_octetBits, pack_octetBits,
    iterate_shift_split 8 _ _ hmask, hrest, crc32Octet, htable, UInt32.toBitVec_xor,
    toBitVec_iterate, UInt32.toBitVec_and, UInt32.toBitVec_xor]
  rfl

lemma wireBits_cons (u : UInt8) (l : Bytes) : wireBits (u :: l) = octetBits u ++ wireBits l := rfl

lemma wireBits_append (a b : Bytes) : wireBits (a ++ b) = wireBits a ++ wireBits b :=
  List.flatMap_append

lemma length_wireBits (l : Bytes) : (wireBits l).length = 8 * l.length := by
  induction l with
  | nil => rfl
  | cons u l ih =>
    rw [wireBits_cons, List.length_append, ih, length_octetBits, List.length_cons]
    omega

lemma toBitVec_foldl_crc32Octet (c : UInt32) (l : Bytes) :
    (l.foldl crc32Octet c).toBitVec =
      feedBits kCrc32Polynomial.toBitVec c.toBitVec (wireBits l) := by
  induction l generalizing c with
  | nil => rfl
  | cons u l ih =>
    rw [List.foldl_cons, ih, toBitVec_crc32Octet, wireBits_cons, feedBits_append]

lemma octetBits_injective : Function.Injective octetBits := by
  intro u v h
  apply UInt8.toBitVec_inj.mp
  apply BitVec.eq_of_getLsbD_eq
  intro i hi
  have hget := congrArg (fun l : List Bool => l[i]?) h
  simpa [octetBits, hi] using hget

lemma wireBits_injective : Function.Injective wireBits := by
  intro a b h
  induction a generalizing b with
  | nil =>
    cases b with
    | nil => rfl
    | cons v b =>
      have hlength := congrArg List.length h
      rw [length_wireBits, length_wireBits] at hlength
      simp at hlength
  | cons u a ih =>
    cases b with
    | nil =>
      have hlength := congrArg List.length h
      rw [length_wireBits, length_wireBits] at hlength
      simp at hlength
    | cons v b =>
      rw [wireBits_cons, wireBits_cons] at h
      obtain ⟨huv, hab⟩ := List.append_inj h (by simp)
      rw [octetBits_injective huv, ih hab]

/-- Up to four octets on end make a burst. -/
lemma differWithin_octets {x y : Bytes} (front : Bytes) (hlen : x.length = y.length)
    (hx : x.length ≤ 4) (back : Bytes) :
    DifferWithin (8 * front.length) 32 (wireBits (front ++ x ++ back))
      (wireBits (front ++ y ++ back)) := by
  simp only [wireBits_append]
  rw [← length_wireBits]
  exact differWithin_replace _ (by rw [length_wireBits, length_wireBits, hlen])
    (by rw [length_wireBits]; omega) _

/-! ## The checksum -/

/-- A checksum continues where it was left: this is how a buffer is checked in pieces. -/
theorem updateCrc32_append (start : UInt32) (a b : Bytes) :
    updateCrc32 start (a ++ b) = updateCrc32 (updateCrc32 start a) b := by
  rw [updateCrc32, updateCrc32, updateCrc32, List.foldl_append, UInt32.xor_assoc, UInt32.xor_self,
    UInt32.xor_zero]

/-- The polynomial of the check with its powers in falling order. -/
noncomputable def crc32Polynomial : (ZMod 2)[X] :=
  X ^ 32 + X ^ 26 + X ^ 23 + X ^ 22 + X ^ 16 + X ^ 12 + X ^ 11 + X ^ 10 + X ^ 8 + X ^ 7 + X ^ 5 +
    X ^ 4 + X ^ 2 + X + 1

lemma generator_kCrc32Polynomial : generator kCrc32Polynomial.toBitVec = crc32Polynomial := by
  have hbits : ∀ i < 32, kCrc32Polynomial.toBitVec.getLsbD i =
      decide (i ∈ [5, 8, 9, 15, 19, 20, 21, 23, 24, 26, 27, 29, 30, 31]) := by decide
  have hpoly : toPoly kCrc32Polynomial.toBitVec = ∑ i ∈ Finset.range 32,
      C (bit (decide (i ∈ [5, 8, 9, 15, 19, 20, 21, 23, 24, 26, 27, 29, 30, 31]))) *
        X ^ (31 - i) :=
    Finset.sum_congr rfl fun i hi => by rw [hbits i (Finset.mem_range.mp hi)]
  rw [generator, hpoly, crc32Polynomial]
  simp only [Finset.sum_range_succ, Finset.sum_range_zero, bit, List.mem_cons, List.not_mem_nil]
  simp
  ring

/-- The checksum of a buffer, begun with the inverted starting value in front of it, is what is left
when it is divided by the polynomial, inverted once more. -/
theorem toPoly_updateCrc32 (start : UInt32) (buf : Bytes) :
    toPoly (updateCrc32 start buf ^^^ 0xFFFFFFFF).toBitVec =
      (X ^ (8 * buf.length) * toPoly (start ^^^ 0xFFFFFFFF).toBitVec +
        X ^ 32 * message (wireBits buf)) %ₘ crc32Polynomial := by
  rw [← generator_kCrc32Polynomial, updateCrc32, UInt32.xor_assoc, UInt32.xor_self,
    UInt32.xor_zero, toBitVec_foldl_crc32Octet, toPoly_feedBits (by decide), length_wireBits]

/-- Two texts of one length that differ in less than 33 bits on end have different checksums. -/
theorem computeCrc32_ne {k : Nat} (hne : a ≠ b)
    (h : DifferWithin k 32 (wireBits a) (wireBits b)) : computeCrc32 a ≠ computeCrc32 b := by
  intro heq
  have hbits : feedBits kCrc32Polynomial.toBitVec (0 ^^^ 0xFFFFFFFF : UInt32).toBitVec (wireBits a) =
      feedBits kCrc32Polynomial.toBitVec (0 ^^^ 0xFFFFFFFF : UInt32).toBitVec (wireBits b) := by
    rw [← toBitVec_foldl_crc32Octet, ← toBitVec_foldl_crc32Octet]
    rw [computeCrc32, computeCrc32, updateCrc32, updateCrc32, UInt32.xor_left_inj] at heq
    rw [heq]
  exact feedBits_ne_of_differWithin (by decide) h (wireBits_injective.ne hne) _ hbits

end XrtcServer.Base
