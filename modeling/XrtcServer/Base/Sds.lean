import Mathlib.Algebra.GroupWithZero.Nat
import Mathlib.Algebra.Ring.Int.Defs

/-!
# The room of an sds string

A `sdshdr` counts the octets of a string and those that are free behind them in two `int`s, while
the functions that grow the string compute with `size_t`. The octets themselves play no part here.
-/

namespace XrtcServer.Base

/-- The conversions to `int` and to `size_t` on a 64-bit host. -/
def toInt32 (n : Int) : Int := Int.bmod n (2 ^ 32)
def toSizeT (n : Int) : Nat := (n % 2 ^ 64).toNat

/-- A `sdshdr`, and how many octets of a string the block behind it can hold. -/
structure Sds where
  len : Int
  free : Int
  room : Nat
  deriving DecidableEq, Repr

namespace Sds

def sdsempty : Sds := ⟨0, 0, 0⟩

def maxPrealloc : Nat := 1024 * 1024

variable (s : Sds)

def sdslen : Nat := toSizeT s.len

def sdsavail : Nat := toSizeT s.free

/-- `newlen` of `sdsMakeRoomFor` -/
def newlen (addlen : Nat) : Nat :=
  let newlen := (s.sdslen + addlen) % 2 ^ 64
  if newlen < maxPrealloc then newlen * 2 % 2 ^ 64 else (newlen + maxPrealloc) % 2 ^ 64

/-- `sdsMakeRoomFor`, which does not return where `zrealloc` finds no memory. -/
def sdsMakeRoomFor (addlen : Nat) : Sds :=
  if addlen ≤ s.sdsavail then s
  else { s with
    free := toInt32 ((s.newlen addlen : Int) - s.sdslen)
    room := s.newlen addlen }

/-- `sdsIncrLen`, without the assertions, which a release build leaves out. -/
def sdsIncrLen (incr : Int) : Sds :=
  { s with len := toInt32 (s.len + incr), free := toInt32 (s.free - incr) }

/-- The header counts a string of `n` octets and no more free octets than the block has. -/
structure Counts (n : Nat) : Prop where
  len : s.len = n
  free_nonneg : 0 ≤ s.free
  free_le : n + s.free ≤ s.room
  free_lt : s.free < 2 ^ 31

end Sds

lemma toInt32_eq {n : Int} (hlo : -2 ^ 31 ≤ n) (hhi : n < 2 ^ 31) : toInt32 n = n :=
  Int.bmod_eq_of_le (by omega) (by omega)

lemma toInt32_eq_sub {n : Int} (hlo : 2 ^ 31 ≤ n) (hhi : n < 2 ^ 32) : toInt32 n = n - 2 ^ 32 := by
  rw [toInt32, ← Int.sub_bmod_right]
  exact Int.bmod_eq_of_le (by omega) (by omega)

lemma toSizeT_natCast {n : Nat} (h : n < 2 ^ 64) : toSizeT n = n := by
  rw [toSizeT]
  omega

lemma toSizeT_cast {n : Int} (h0 : 0 ≤ n) (h : n < 2 ^ 64) : (toSizeT n : Int) = n := by
  rw [toSizeT]
  omega

namespace Sds
variable {s : Sds} {n addlen incr : Nat}

lemma counts_sdsempty : sdsempty.Counts 0 := ⟨rfl, by decide, by decide, by decide⟩

lemma Counts.sdslen (h : s.Counts n) (hn : n < 2 ^ 31) : s.sdslen = n := by
  rw [Sds.sdslen, h.len, toSizeT_natCast (by omega)]

lemma Counts.sdsavail (h : s.Counts n) : (s.sdsavail : Int) = s.free := by
  have hlt := h.free_lt
  exact toSizeT_cast h.free_nonneg (by omega)

/-- What `sdsMakeRoomFor` asks for where it grows the string by less than 2^31. -/
lemma Counts.newlen (h : s.Counts n) (hn : n < 2 ^ 31) (hadd : addlen < 2 ^ 31) :
    s.newlen addlen = if n + addlen < maxPrealloc then (n + addlen) * 2
      else n + addlen + maxPrealloc := by
  have hsum : (n + addlen) % 2 ^ 64 = n + addlen := Nat.mod_eq_of_lt (by omega)
  rw [Sds.newlen, h.sdslen hn, hsum]
  have hmax : maxPrealloc = 2 ^ 20 := rfl
  by_cases hsmall : n + addlen < maxPrealloc
  · rw [if_pos hsmall, if_pos hsmall]
    exact Nat.mod_eq_of_lt (by omega)
  · rw [if_neg hsmall, if_neg hsmall]
    exact Nat.mod_eq_of_lt (by omega)

/-- There is room for `addlen` octets behind the string, as the header says. -/
lemma Counts.sdsMakeRoomFor (h : s.Counts n) (hn : n < 2 ^ 31)
    (hadd : addlen + maxPrealloc < 2 ^ 31) :
    (s.sdsMakeRoomFor addlen).Counts n ∧ (addlen : Int) ≤ (s.sdsMakeRoomFor addlen).free := by
  have havail := h.sdsavail
  have hmax : maxPrealloc = 2 ^ 20 := rfl
  rw [Sds.sdsMakeRoomFor]
  split
  · exact ⟨h, by omega⟩
  · have hnew := h.newlen hn (by omega : addlen < 2 ^ 31)
    have hlen := h.sdslen hn
    have hroom : n + addlen ≤ s.newlen addlen ∧ s.newlen addlen < n + 2 ^ 31 := by
      rw [hnew]
      by_cases hsmall : n + addlen < maxPrealloc
      · rw [if_pos hsmall]
        omega
      · rw [if_neg hsmall]
        omega
    have hfree : toInt32 ((s.newlen addlen : Int) - s.sdslen) = (s.newlen addlen : Int) - n := by
      rw [hlen]
      exact toInt32_eq (by omega) (by omega)
    refine ⟨⟨h.len, ?_, ?_, ?_⟩, ?_⟩
    · dsimp only
      rw [hfree]
      omega
    · dsimp only
      rw [hfree]
      omega
    · dsimp only
      rw [hfree]
      omega
    · dsimp only
      rw [hfree]
      omega

/-- Of a longer growth the header cannot count the octets. -/
lemma Counts.free_neg (h : s.Counts n) (hn : n < 2 ^ 31) (hfree : s.free < addlen)
    (hadd : addlen < 2 ^ 31) (hlong : 2 ^ 31 ≤ addlen + maxPrealloc) :
    (s.sdsMakeRoomFor addlen).free < 0 := by
  have havail := h.sdsavail
  have hnew := h.newlen hn hadd
  have hmax : maxPrealloc = 2 ^ 20 := rfl
  rw [if_neg (by omega)] at hnew
  rw [Sds.sdsMakeRoomFor, if_neg (by omega)]
  dsimp only
  rw [hnew, h.sdslen hn, toInt32_eq_sub (by omega) (by omega)]
  omega

lemma Counts.free_sdsIncrLen (h : s.Counts n) (hincr : (incr : Int) ≤ s.free) :
    (s.sdsIncrLen incr).free = s.free - incr := by
  have hlt := h.free_lt
  exact toInt32_eq (n := s.free - incr) (by omega) (by omega)

/-- The header counts what was read, precisely while the string is shorter than 2^31. -/
lemma Counts.len_sdsIncrLen (h : s.Counts n) (hn : n < 2 ^ 31) (hincr : (incr : Int) ≤ s.free) :
    (s.sdsIncrLen incr).len = (n + incr : Nat) ↔ n + incr < 2 ^ 31 := by
  have hlt := h.free_lt
  have hlen : (s.sdsIncrLen incr).len = toInt32 ((n : Int) + incr) := by rw [← h.len]; rfl
  rw [hlen]
  constructor
  · intro heq
    by_contra hlong
    rw [toInt32_eq_sub (by omega) (by omega)] at heq
    omega
  · intro hshort
    rw [toInt32_eq (by omega) (by omega)]
    exact Int.natCast_add ..

/-- What was read into the room is counted. -/
lemma Counts.sdsIncrLen (h : s.Counts n) (hincr : (incr : Int) ≤ s.free)
    (hn : n + incr < 2 ^ 31) : (s.sdsIncrLen incr).Counts (n + incr) := by
  have hle := h.free_le
  have hlt := h.free_lt
  have hfree' := h.free_sdsIncrLen hincr
  have hroom' : (s.sdsIncrLen incr).room = s.room := rfl
  refine ⟨(h.len_sdsIncrLen (by omega) hincr).mpr hn, ?_, ?_, ?_⟩
  · rw [hfree']
    omega
  · rw [hfree', hroom']
    omega
  · rw [hfree']
    omega

end Sds

end XrtcServer.Base
