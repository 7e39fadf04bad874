import Mathlib.Data.List.TakeDrop
import XrtcServer.Base.Bytes

/-!
# The memory of a buffer

`rtc::Buffer` owns an array that is as long as its capacity, of which the first `size` elements
count. New memory holds whatever was there before. `Contents` is what a program knows of a buffer
that it has written to, and `Reads` that the memory agrees with it.
-/

namespace XrtcServer.Base

/-- `rtc::Buffer`, that is `BufferT<uint8_t>`. -/
structure Buffer where
  /-- The `capacity_` elements at `data_`. -/
  data : Bytes
  size : Nat
  size_le : size ≤ data.length
  deriving DecidableEq, Repr

/-- `new T[n]`, where `fill` is what the memory happens to hold. -/
def newMemory (fill : Nat → UInt8) (n : Nat) : Bytes := (List.range n).map fill

/-- `memcpy` to the place `i` of an array. -/
def memcpy {α : Type*} (mem : List α) (i : Nat) (src : List α) : List α :=
  mem.take i ++ src ++ mem.drop (i + src.length)

@[simp] lemma length_newMemory (fill : Nat → UInt8) (n : Nat) : (newMemory fill n).length = n := by
  simp [newMemory]

lemma length_memcpy {α : Type*} {mem src : List α} {i : Nat} (h : i + src.length ≤ mem.length) :
    (memcpy mem i src).length = mem.length := by
  simp only [memcpy, List.length_append, List.length_take, List.length_drop]
  omega

/-- What is copied is read where it was copied to, and elsewhere what was there before. -/
lemma getElem?_memcpy {α : Type*} {mem src : List α} {i : Nat} (h : i ≤ mem.length) (j : Nat) :
    (memcpy mem i src)[j]? =
      if i ≤ j ∧ j < i + src.length then src[j - i]? else mem[j]? := by
  have htake : (mem.take i).length = i := List.length_take_of_le h
  unfold memcpy
  rw [List.append_assoc]
  by_cases hi : j < i
  · rw [List.getElem?_append_left (by omega), List.getElem?_take, if_pos hi, if_neg (by omega)]
  · rw [List.getElem?_append_right (by omega), htake]
    by_cases hj : j < i + src.length
    · rw [List.getElem?_append_left (by omega), if_pos ⟨by omega, hj⟩]
    · rw [List.getElem?_append_right (by omega), List.getElem?_drop, if_neg (by omega)]
      congr 1
      omega

namespace Buffer

def capacity (b : Buffer) : Nat := b.data.length

/-- The elements that count. -/
def bytes (b : Buffer) : Bytes := b.data.take b.size

def create (fill : Nat → UInt8) (size capacity : Nat) : Buffer where
  data := newMemory fill (max size capacity)
  size := size
  size_le := by rw [length_newMemory]; exact Nat.le_max_left ..

def ofData (fill : Nat → UInt8) (data : Bytes) (capacity : Nat) : Buffer where
  data := memcpy (newMemory fill (max data.length capacity)) 0 data
  size := data.length
  size_le := by
    have hfits : data.length ≤ max data.length capacity := Nat.le_max_left ..
    rwa [length_memcpy (by rwa [length_newMemory, Nat.zero_add]), length_newMemory]

lemma capacity_ofData (fill : Nat → UInt8) (data : Bytes) (n : Nat) :
    (ofData fill data n).capacity = max data.length n := by
  have hfits : data.length ≤ max data.length n := Nat.le_max_left ..
  unfold capacity ofData
  rw [length_memcpy (by rwa [length_newMemory, Nat.zero_add]), length_newMemory]

lemma length_bytes (b : Buffer) : b.bytes.length = b.size :=
  List.length_take_of_le b.size_le

/-- `EnsureCapacityWithHeadroom`. -/
def ensureCapacityWithHeadroom (fill : Nat → UInt8) (b : Buffer) (capacity : Nat)
    (extraHeadroom : Bool) : Buffer :=
  if h : capacity ≤ b.capacity then b
  else
    let newCapacity :=
      if extraHeadroom then max capacity (b.capacity + b.capacity / 2) else capacity
    { data := memcpy (newMemory fill newCapacity) 0 b.bytes
      size := b.size
      size_le := by
        have hsize := b.size_le
        have hnew : capacity ≤ newCapacity := by
          dsimp only [newCapacity]
          split
          · exact Nat.le_max_left ..
          · exact Nat.le_refl _
        unfold Buffer.capacity at h
        rw [length_memcpy (by rw [length_bytes, length_newMemory]; omega), length_newMemory]
        omega }

lemma size_ensureCapacityWithHeadroom (fill : Nat → UInt8) (b : Buffer) (n : Nat) (e : Bool) :
    (b.ensureCapacityWithHeadroom fill n e).size = b.size := by
  unfold ensureCapacityWithHeadroom
  split <;> rfl

lemma le_capacity_ensureCapacityWithHeadroom (fill : Nat → UInt8) (b : Buffer) (n : Nat)
    (e : Bool) : n ≤ (b.ensureCapacityWithHeadroom fill n e).capacity := by
  unfold ensureCapacityWithHeadroom
  split
  · assumption
  · rename_i h
    have hsize := b.size_le
    unfold capacity at h ⊢
    dsimp only
    rw [length_memcpy, length_newMemory]
    · split
      · exact Nat.le_max_left ..
      · exact Nat.le_refl _
    · rw [length_bytes, length_newMemory]
      split <;> omega

/-- `AppendData` of elements that are not in the buffer's own memory. -/
def appendData (fill : Nat → UInt8) (b : Buffer) (data : Bytes) : Buffer :=
  let grown := b.ensureCapacityWithHeadroom fill (b.size + data.length) true
  { data := memcpy grown.data grown.size data
    size := grown.size + data.length
    size_le := by
      have hfits : grown.size + data.length ≤ grown.data.length :=
        (size_ensureCapacityWithHeadroom ..).symm ▸ le_capacity_ensureCapacityWithHeadroom ..
      rw [length_memcpy hfits]
      exact hfits }

def clear (b : Buffer) : Buffer := { b with size := 0, size_le := Nat.zero_le _ }

/-- `SetData`. -/
def setData (fill : Nat → UInt8) (b : Buffer) (data : Bytes) : Buffer :=
  b.clear.appendData fill data

/-- `SetSize`. -/
def setSize (fill : Nat → UInt8) (b : Buffer) (size : Nat) : Buffer :=
  { b.ensureCapacityWithHeadroom fill size true with
    size := size
    size_le := le_capacity_ensureCapacityWithHeadroom .. }

/-- `EnsureCapacity`. -/
def ensureCapacity (fill : Nat → UInt8) (b : Buffer) (capacity : Nat) : Buffer :=
  b.ensureCapacityWithHeadroom fill capacity false

/-- What a program does with the pointer that `data()` returns, within the capacity. -/
def write (b : Buffer) (i : Nat) (src : Bytes) : Buffer :=
  if h : i + src.length ≤ b.capacity then
    { data := memcpy b.data i src
      size := b.size
      size_le := by rw [length_memcpy h]; exact b.size_le }
  else b

lemma capacity_create (fill : Nat → UInt8) (size n : Nat) :
    (create fill size n).capacity = max size n :=
  length_newMemory ..

lemma capacity_le_ensureCapacityWithHeadroom (fill : Nat → UInt8) (b : Buffer) (n : Nat)
    (e : Bool) : b.capacity ≤ (b.ensureCapacityWithHeadroom fill n e).capacity := by
  have hgrown := le_capacity_ensureCapacityWithHeadroom fill b n e
  by_cases hn : n ≤ b.capacity
  · have hsame : b.ensureCapacityWithHeadroom fill n e = b := dif_pos hn
    exact Nat.le_of_eq (congrArg capacity hsame).symm
  · omega

lemma capacity_le_appendData (fill : Nat → UInt8) (b : Buffer) (data : Bytes) :
    b.capacity ≤ (b.appendData fill data).capacity := by
  have hroom : (b.ensureCapacityWithHeadroom fill (b.size + data.length) true).size + data.length ≤
      (b.ensureCapacityWithHeadroom fill (b.size + data.length) true).data.length :=
    (size_ensureCapacityWithHeadroom ..).symm ▸ le_capacity_ensureCapacityWithHeadroom ..
  refine Nat.le_trans (capacity_le_ensureCapacityWithHeadroom fill b (b.size + data.length) true) ?_
  exact Nat.le_of_eq (length_memcpy hroom).symm

lemma capacity_le_write (b : Buffer) (i : Nat) (src : Bytes) :
    b.capacity ≤ (b.write i src).capacity := by
  unfold write
  split
  · rename_i hroom
    exact Nat.le_of_eq (length_memcpy hroom).symm
  · exact Nat.le_refl _

/-- `operator==`. -/
def equals (b b' : Buffer) : Bool := b.size == b'.size && b.bytes == b'.bytes

end Buffer

/-! ## What is known of a buffer -/

/-- The elements that a program has written, `none` for one that it has not. -/
structure Contents where
  bytes : List (Option UInt8) := []
  /-- Those written behind the end, which may become part of the buffer when its size grows. -/
  beyond : List (Option UInt8) := []
  deriving DecidableEq, Repr

namespace Contents

def known (data : Bytes) : Contents := { bytes := data.map some }

def blank (n : Nat) : Contents := { bytes := List.replicate n none }

/-- What is left when only the buffer itself is copied. -/
def settled (c : Contents) : Contents := { c with beyond := [] }

def append (c : Contents) (data : List (Option UInt8)) : Contents := { bytes := c.bytes ++ data }

def all (c : Contents) : List (Option UInt8) := c.bytes ++ c.beyond

def resize (c : Contents) (n : Nat) : Contents :=
  if n ≤ c.all.length then { bytes := c.all.take n }
  else { bytes := c.bytes ++ List.replicate (n - c.bytes.length) none }

def overwrite (c : Contents) (i : Nat) (src : Bytes) : Contents :=
  let all := c.all ++ List.replicate (i + src.length - c.all.length) none
  let written := memcpy all i (src.map some)
  { bytes := written.take c.bytes.length, beyond := written.drop c.bytes.length }

lemma blank_overwrite (data : Bytes) : (blank data.length).overwrite 0 data = known data := by
  simp [overwrite, blank, known, all, memcpy]

lemma resize_nil {n : Nat} : ({} : Contents).resize n = blank n := by
  unfold resize
  split
  · rename_i hn
    simp [blank, Nat.le_zero.mp hn, all]
  · simp [blank]

lemma resize_take {c : Contents} {n : Nat} (hc : c.beyond = []) :
    ({ bytes := c.bytes.take n } : Contents).resize n = c.resize n := by
  unfold resize all
  rw [hc, List.append_nil, List.append_nil, List.length_take, List.take_take]
  split <;> rename_i hn
  · rw [if_pos (by omega), Nat.min_self]
  · rw [if_neg (by omega), List.take_of_length_le (by omega)]
    dsimp only
    rw [Nat.min_eq_right (by omega)]

end Contents

/-- Every element that is known is in the memory. -/
def Matches (xs : List (Option UInt8)) (mem : Bytes) : Prop :=
  ∀ (i : Nat) (y : UInt8), xs[i]? = some (some y) → mem[i]? = some y

structure Reads (b : Buffer) (c : Contents) : Prop where
  size : c.bytes.length = b.size
  fits : c.all.length ≤ b.capacity
  found : Matches c.all b.data

variable {b b' : Buffer} {c c' : Contents} {data mem src : Bytes} {xs ys : List (Option UInt8)}
  {fill : Nat → UInt8} {i n : Nat}

lemma matches_known : Matches (data.map some) data := by
  intro i y h
  simpa using h

lemma replicate_none_ne (n i : Nat) (y : UInt8) :
    (List.replicate n (none : Option UInt8))[i]? ≠ some (some y) := by
  intro h
  rw [List.getElem?_replicate] at h
  split at h <;> simp at h

lemma matches_replicate : Matches (List.replicate n none) mem :=
  fun i y h => absurd h (replicate_none_ne n i y)

lemma Matches.memcpy (hys : Matches ys mem) (hxs : Matches xs src) (hlen : xs.length = src.length)
    (hi : i ≤ ys.length) (hfits : i ≤ mem.length) :
    Matches (memcpy ys i xs) (memcpy mem i src) := by
  intro j y h
  rw [getElem?_memcpy hi, hlen] at h
  rw [getElem?_memcpy hfits]
  split at h
  · rw [if_pos (by assumption)]
    exact hxs _ y h
  · rw [if_neg (by assumption)]
    exact hys _ y h

lemma Matches.of_prefix (h : Matches ys mem) (hpre : xs <+: ys) : Matches xs mem := by
  obtain ⟨zs, rfl⟩ := hpre
  intro i y hi
  refine h i y ?_
  rw [List.getElem?_append_left (List.getElem?_eq_some_iff.mp hi).1]
  exact hi

lemma Matches.take (h : Matches xs mem) (n : Nat) : Matches (xs.take n) (mem.take n) := by
  intro i y hi
  rw [List.getElem?_take] at hi ⊢
  split at hi
  · rename_i hlt
    rw [if_pos hlt]
    exact h i y hi
  · cases hi

/-- Where all is known, the buffer has it. -/
lemma Matches.eq (h : Matches (data.map some) mem) (hlen : data.length = mem.length) :
    data = mem := by
  refine List.ext_getElem? fun i => ?_
  rcases Nat.lt_or_ge i data.length with hi | hi
  · rw [h i data[i] (by simp), List.getElem?_eq_getElem hi]
  · rw [List.getElem?_eq_none hi, List.getElem?_eq_none (hlen ▸ hi)]

lemma Reads.bytes_found (h : Reads b c) : Matches c.bytes b.bytes := by
  intro i y hi
  have hlt : i < b.size := h.size ▸ (List.getElem?_eq_some_iff.mp hi).1
  rw [Buffer.bytes, List.getElem?_take, if_pos hlt]
  exact h.found.of_prefix (List.prefix_append ..) i y hi

lemma Reads.settled (h : Reads b c) : Reads b c.settled where
  size := h.size
  fits := by
    have hfits := h.fits
    simp only [Contents.all, Contents.settled, List.length_append, List.append_nil] at hfits ⊢
    omega
  found := h.found.of_prefix (by simp [Contents.all, Contents.settled])

lemma reads_of_matches (hlen : xs.length = b.size) (h : Matches xs b.data) :
    Reads b { bytes := xs } where
  size := hlen
  fits := by
    rw [Contents.all, List.append_nil, hlen]
    exact b.size_le
  found := by rwa [Contents.all, List.append_nil]

/-- What is copied to the front of new memory is known as far as it was before. -/
lemma matches_copied (hlen : xs.length = data.length) (h : Matches xs data) :
    Matches xs (memcpy mem 0 data) := by
  have hcopied : Matches (memcpy [] 0 xs) (memcpy mem 0 data) :=
    Matches.memcpy (by intro i y hi; simp at hi) h hlen (Nat.zero_le _) (Nat.zero_le _)
  simpa [memcpy] using hcopied

lemma reads_ofData (hlen : xs.length = data.length) (h : Matches xs data) :
    Reads (Buffer.ofData fill data n) { bytes := xs } :=
  reads_of_matches hlen (matches_copied hlen h)

lemma reads_create : Reads (Buffer.create fill i n) (Contents.blank i) :=
  reads_of_matches List.length_replicate matches_replicate

lemma reads_clear : Reads b.clear {} :=
  reads_of_matches rfl (by intro i y hi; simp at hi)

lemma Reads.ensureCapacityWithHeadroom (h : Reads b c) (fill : Nat → UInt8) (n : Nat) (e : Bool) :
    Reads (b.ensureCapacityWithHeadroom fill n e) c.settled := by
  unfold Buffer.ensureCapacityWithHeadroom
  split
  · exact h.settled
  · exact reads_of_matches h.size (matches_copied (h.size.trans b.length_bytes.symm) h.bytes_found)

lemma Reads.appendData (h : Reads b c) (hlen : xs.length = data.length) (hxs : Matches xs data) :
    Reads (b.appendData fill data) (c.append xs) := by
  have hgrown := h.ensureCapacityWithHeadroom fill (b.size + data.length) true
  have hsize : c.bytes.length = _ := hgrown.size
  refine reads_of_matches ?_ ?_
  · rw [List.length_append, hsize, hlen]
    rfl
  · have hfound := Matches.memcpy hgrown.found hxs hlen (i := c.bytes.length)
      (by simp [Contents.all, Contents.settled]) (hsize ▸ Buffer.size_le _)
    have hall : memcpy c.settled.all c.bytes.length xs = c.bytes ++ xs := by
      simp [memcpy, Contents.all, Contents.settled]
    rw [hall, hsize] at hfound
    exact hfound

lemma Reads.setSize (h : Reads b c) : Reads (b.setSize fill n) (c.resize n) := by
  unfold Contents.resize
  split
  · rename_i hn
    have hroom : n ≤ b.capacity := Nat.le_trans hn h.fits
    refine reads_of_matches (List.length_take_of_le hn) ?_
    have hsame : b.ensureCapacityWithHeadroom fill n true = b := dif_pos hroom
    change Matches _ (b.ensureCapacityWithHeadroom fill n true).data
    rw [hsame]
    exact h.found.of_prefix (List.take_prefix ..)
  · rename_i hn
    have hlen : c.bytes.length ≤ c.all.length := by simp [Contents.all]
    refine reads_of_matches ?_ ?_
    · rw [List.length_append, List.length_replicate]
      change _ = n
      omega
    · have hgrown := (h.ensureCapacityWithHeadroom fill n true).found
      rw [Contents.all, Contents.settled, List.append_nil] at hgrown
      intro i y hi
      rcases Nat.lt_or_ge i c.bytes.length with hlt | hge
      · rw [List.getElem?_append_left hlt] at hi
        exact hgrown i y hi
      · rw [List.getElem?_append_right hge] at hi
        exact absurd hi (replicate_none_ne _ _ y)

lemma Reads.write (h : Reads b c) (hi : i + src.length ≤ b.capacity) :
    Reads (b.write i src) (c.overwrite i src) := by
  have hfits := h.fits
  have hbytes : c.bytes.length ≤ c.all.length := by simp [Contents.all]
  -- The octets up to the end of what is written; those that were not known before still are not.
  have hpadded : Matches (c.all ++ List.replicate (i + src.length - c.all.length) none) b.data := by
    intro j y hj
    rcases Nat.lt_or_ge j c.all.length with hlt | hge
    · rw [List.getElem?_append_left hlt] at hj
      exact h.found j y hj
    · rw [List.getElem?_append_right hge] at hj
      exact absurd hj (replicate_none_ne _ _ y)
  have hlen : i + (src.map some).length ≤
      (c.all ++ List.replicate (i + src.length - c.all.length) none).length := by
    rw [List.length_map, List.length_append, List.length_replicate]
    omega
  have hall : (c.overwrite i src).all =
      memcpy (c.all ++ List.replicate (i + src.length - c.all.length) none) i (src.map some) :=
    List.take_append_drop ..
  rw [Buffer.write, dif_pos hi]
  refine ⟨?_, ?_, ?_⟩
  · refine (List.length_take_of_le ?_).trans h.size
    rw [length_memcpy hlen, List.length_append]
    omega
  · rw [hall, length_memcpy hlen, List.length_append, List.length_replicate]
    change _ ≤ (memcpy b.data i src).length
    rw [length_memcpy hi]
    change _ ≤ b.capacity
    omega
  · rw [hall]
    exact hpadded.memcpy matches_known (List.length_map ..) (by omega) (by
      change i ≤ b.capacity
      omega)

end XrtcServer.Base
