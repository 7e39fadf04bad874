import Mathlib.Algebra.GroupWithZero.Nat
import Mathlib.Data.List.Basic

/-!
# Octets

Big-endian numbers, bounds-checked reads from a buffer and the `ByteBufferReader` that consumes
one.
-/

namespace XrtcServer.Base

/-- A `std::string` or a buffer of octets. -/
abbrev Bytes := List UInt8

/-- A read outside a buffer. -/
inductive OutOfBounds
  | outOfBounds
  deriving DecidableEq, Repr

lemma bind_eq_ok {ε α β : Type} {x : Except ε α} {f : α → Except ε β} {b : β} :
    (x >>= f) = .ok b ↔ ∃ a, x = .ok a ∧ f a = .ok b := by
  cases x with
  | error e => simp [bind, Except.bind]
  | ok a => simp [bind, Except.bind]

lemma map_eq_ok {ε α β : Type} {x : Except ε α} {f : α → β} {b : β} :
    x.map f = .ok b ↔ ∃ a, x = .ok a ∧ f a = b := by
  cases x with
  | error e => simp [Except.map]
  | ok a => simp [Except.map]

lemma exists_bind_eq_ok {ε α β : Type} {x : Except ε α} {f : α → Except ε β}
    (hx : ∃ a, x = .ok a) (hf : ∀ a, ∃ b, f a = .ok b) : ∃ b, (x >>= f) = .ok b := by
  obtain ⟨a, rfl⟩ := hx
  exact hf a

/-- The number that big-endian octets encode. -/
def ofBE : Bytes → Nat
  | [] => 0
  | b :: l => b.toNat * 256 ^ l.length + ofBE l

/-- The big-endian encoding of a number in `w` octets. -/
def toBE : Nat → Nat → Bytes
  | 0, _ => []
  | w + 1, n => UInt8.ofNat (n / 256 ^ w) :: toBE w (n % 256 ^ w)

lemma ofBE_lt (l : Bytes) : ofBE l < 256 ^ l.length := by
  induction l with
  | nil => simp [ofBE]
  | cons b l ih =>
    have hb : b.toNat + 1 ≤ 256 := b.toNat_lt
    have hmul := Nat.mul_le_mul_right (256 ^ l.length) hb
    rw [Nat.add_mul, Nat.one_mul] at hmul
    rw [ofBE, List.length_cons, Nat.pow_succ]
    omega

@[simp] lemma length_toBE (w n : Nat) : (toBE w n).length = w := by
  induction w generalizing n with
  | zero => rfl
  | succ w ih => rw [toBE, List.length_cons, ih]

/-- A number that fits the octets is decoded to itself. -/
theorem ofBE_toBE {w n : Nat} (h : n < 256 ^ w) : ofBE (toBE w n) = n := by
  induction w generalizing n with
  | zero =>
    rw [Nat.pow_zero] at h
    rw [toBE, ofBE]
    omega
  | succ w ih =>
    have hpos : 0 < 256 ^ w := Nat.pow_pos (by decide)
    have hdiv : n / 256 ^ w < 256 := by
      rw [Nat.div_lt_iff_lt_mul hpos, Nat.mul_comm, ← Nat.pow_succ]
      exact h
    rw [toBE, ofBE, length_toBE, ih (Nat.mod_lt n hpos), UInt8.toNat_ofNat',
      Nat.mod_eq_of_lt hdiv, Nat.mul_comm, Nat.div_add_mod]

/-- Decoding and encoding again changes no octet. -/
theorem toBE_ofBE (l : Bytes) : toBE l.length (ofBE l) = l := by
  induction l with
  | nil => rfl
  | cons b l ih =>
    have hlt := ofBE_lt l
    have hpos : 0 < 256 ^ l.length := Nat.pow_pos (by decide)
    rw [List.length_cons, toBE, ofBE, Nat.mul_comm, Nat.mul_add_div hpos, Nat.div_eq_of_lt hlt,
      Nat.add_zero, Nat.mul_add_mod, Nat.mod_eq_of_lt hlt, ih, UInt8.ofNat_toNat]

/-- The number that little-endian octets encode. -/
def ofLE (l : Bytes) : Nat := ofBE l.reverse

/-- The little-endian encoding of a number in `w` octets. -/
def toLE (w n : Nat) : Bytes := (toBE w n).reverse

@[simp] lemma length_toLE (w n : Nat) : (toLE w n).length = w := by
  rw [toLE, List.length_reverse, length_toBE]

theorem ofLE_toLE {w n : Nat} (h : n < 256 ^ w) : ofLE (toLE w n) = n := by
  rw [ofLE, toLE, List.reverse_reverse, ofBE_toBE h]

/-- `n` octets of `data` from `pos` on. -/
def readAt (data : Bytes) (pos n : Nat) : Except OutOfBounds Bytes :=
  if pos + n ≤ data.length then .ok ((data.drop pos).take n) else .error .outOfBounds

/-- `rtc::GetBE16` and `rtc::GetBE32` -/
def getBE (data : Bytes) (pos n : Nat) : Except OutOfBounds Nat :=
  (readAt data pos n).map ofBE

/-- A `ByteBufferReader`, which has come to `start`. -/
structure ByteBufferReader where
  bytes : Bytes
  start : Nat
  start_le : start ≤ bytes.length

/-- `ByteBufferReader::ReadBytes` on the buffer itself. -/
def ByteBufferReader.readBytes (r : ByteBufferReader) (n : Nat) :
    Except OutOfBounds (Option (Bytes × Nat)) :=
  if n > r.bytes.length - r.start then .ok none
  else (readAt r.bytes r.start n).map fun v => some (v, r.start + n)

/-- `ByteBufferReader::ReadBytes` and `ReadString`: the octets read and those that remain. -/
def readBytes (n : Nat) (buf : Bytes) : Option (Bytes × Bytes) :=
  if n ≤ buf.length then some (buf.take n, buf.drop n) else none

def readUInt16 (buf : Bytes) : Option (Nat × Bytes) :=
  (readBytes 2 buf).map fun (v, rest) => (ofBE v, rest)

def readUInt32 (buf : Bytes) : Option (Nat × Bytes) :=
  (readBytes 4 buf).map fun (v, rest) => (ofBE v, rest)

def consume (n : Nat) (buf : Bytes) : Option Bytes :=
  (readBytes n buf).map Prod.snd

lemma readBytes_append {n : Nat} {v : Bytes} (hv : v.length = n) (l : Bytes) :
    readBytes n (v ++ l) = some (v, l) := by
  subst hv
  simp [readBytes]

lemma readUInt16_append {v : Bytes} (hv : v.length = 2) (l : Bytes) :
    readUInt16 (v ++ l) = some (ofBE v, l) := by
  rw [readUInt16, readBytes_append hv, Option.map_some]

lemma readUInt32_append {v : Bytes} (hv : v.length = 4) (l : Bytes) :
    readUInt32 (v ++ l) = some (ofBE v, l) := by
  rw [readUInt32, readBytes_append hv, Option.map_some]

lemma consume_append {n : Nat} {v : Bytes} (hv : v.length = n) (l : Bytes) :
    consume n (v ++ l) = some l := by
  rw [consume, readBytes_append hv, Option.map_some]

lemma readBytes_eq_some {n : Nat} {buf v rest : Bytes} (h : readBytes n buf = some (v, rest)) :
    buf = v ++ rest ∧ v.length = n := by
  unfold readBytes at h
  split at h
  · rename_i hn
    cases h
    exact ⟨(List.take_append_drop n buf).symm, List.length_take_of_le hn⟩
  · cases h

lemma readUInt16_eq_some {buf rest : Bytes} {x : Nat} (h : readUInt16 buf = some (x, rest)) :
    ∃ v, buf = v ++ rest ∧ v.length = 2 ∧ ofBE v = x := by
  obtain ⟨⟨v, r⟩, hv, hx⟩ := Option.map_eq_some_iff.mp h
  cases hx
  exact ⟨v, (readBytes_eq_some hv).1, (readBytes_eq_some hv).2, rfl⟩

lemma readUInt32_eq_some {buf rest : Bytes} {x : Nat} (h : readUInt32 buf = some (x, rest)) :
    ∃ v, buf = v ++ rest ∧ v.length = 4 ∧ ofBE v = x := by
  obtain ⟨⟨v, r⟩, hv, hx⟩ := Option.map_eq_some_iff.mp h
  cases hx
  exact ⟨v, (readBytes_eq_some hv).1, (readBytes_eq_some hv).2, rfl⟩

lemma consume_eq_some {n : Nat} {buf rest : Bytes} (h : consume n buf = some rest) :
    ∃ v, buf = v ++ rest ∧ v.length = n := by
  obtain ⟨⟨v, r⟩, hv, hx⟩ := Option.map_eq_some_iff.mp h
  cases hx
  exact ⟨v, readBytes_eq_some hv⟩

/-- The reader stays inside its buffer, and the octets from its start on are all it depends on. -/
lemma ByteBufferReader.readBytes_eq (r : ByteBufferReader) (n : Nat) :
    r.readBytes n = .ok ((Base.readBytes n (r.bytes.drop r.start)).map fun (v, _) =>
      (v, r.start + n)) := by
  have hstart := r.start_le
  unfold ByteBufferReader.readBytes Base.readBytes
  rw [List.length_drop]
  by_cases hn : n ≤ r.bytes.length - r.start
  · rw [if_neg (Nat.not_lt_of_le hn), if_pos hn, readAt, if_pos (by omega)]
    rfl
  · rw [if_pos (Nat.lt_of_not_le hn), if_neg hn]
    rfl

lemma readBytes_of_le {n : Nat} {buf : Bytes} (h : n ≤ buf.length) :
    readBytes n buf = some (buf.take n, buf.drop n) := if_pos h

lemma readUInt16_of_le {buf : Bytes} (h : 2 ≤ buf.length) :
    readUInt16 buf = some (ofBE (buf.take 2), buf.drop 2) := by
  rw [readUInt16, readBytes_of_le h, Option.map_some]

lemma getBE_eq_ok {data : Bytes} {pos n x : Nat} (h : getBE data pos n = .ok x) :
    pos + n ≤ data.length ∧ ofBE ((data.drop pos).take n) = x := by
  unfold getBE readAt at h
  split at h
  · rename_i hn
    cases h
    exact ⟨hn, rfl⟩
  · cases h

lemma getBE_of_le (data : Bytes) (pos n : Nat) (h : pos + n ≤ data.length) :
    getBE data pos n = .ok (ofBE ((data.drop pos).take n)) := by
  rw [getBE, readAt, if_pos h]
  rfl

lemma getBE_of_drop {data v rest : Bytes} {pos n : Nat} (h : data.drop pos = v ++ rest)
    (hv : v.length = n) (hn : 0 < n) : getBE data pos n = .ok (ofBE v) := by
  have hlen := congrArg List.length h
  rw [List.length_drop, List.length_append] at hlen
  rw [getBE_of_le data pos n (by omega), h, ← hv, List.take_left]

end XrtcServer.Base
