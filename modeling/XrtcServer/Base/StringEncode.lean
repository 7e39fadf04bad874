import Mathlib.Data.List.Infix
import Mathlib.Data.List.TakeWhile
import XrtcServer.Base.Bytes

/-!
# Strings

The helpers of `rtc_base/string_encode` and of `std::string` that the SDP code uses. A text is a
`std::string`, a list of characters that stand for octets.
-/

namespace XrtcServer.Base

abbrev Text := List Char

instance : LawfulBEq Text := inferInstance

/-- `source.find(pattern) != std::string::npos` -/
def contains (source pattern : Text) : Bool := decide (pattern <:+: source)

/-- What is decided of the characters of a literal. The kernel takes long to take a literal apart. -/
lemma of_literal {P : Text → Prop} [DecidablePred P] {chars : List Char}
    (h : decide (P chars) = true) : P (String.ofList chars).toList := by
  rw [String.toList_ofList]
  exact of_decide_eq_true h

lemma mem_literal {c : Char} {chars : List Char} (h : c ∈ chars) :
    c ∈ (String.ofList chars).toList :=
  String.toList_ofList.symm ▸ h

lemma notMem_literal {c : Char} {chars : List Char} (h : c ∉ chars) :
    c ∉ (String.ofList chars).toList :=
  String.toList_ofList.symm ▸ h

/-- `rtc::split` -/
def split (delimiter : Char) : Text → List Text
  | [] => [[]]
  | c :: source =>
    if c = delimiter then [] :: split delimiter source
    else
      match split delimiter source with
      | [] => [[c]]
      | field :: fields => (c :: field) :: fields

/-- `rtc::tokenize`, which keeps the fields that are not empty. -/
def tokenize (delimiter : Char) (source : Text) : List Text :=
  (split delimiter source).filter (· ≠ [])

/-- `rtc::tokenize_first`: what stands before the first delimiter and after the delimiters that
follow it. -/
def tokenizeFirst (delimiter : Char) (source : Text) : Option (Text × Text) :=
  if delimiter ∈ source then
    some (source.takeWhile (· ≠ delimiter),
      (source.dropWhile (· ≠ delimiter)).dropWhile (· = delimiter))
  else none

/-- The number that decimal digits stand for; `none` where there is no digit or another character. -/
def digitsValue (digits : Text) : Option Nat :=
  if digits ≠ [] ∧ digits.all Char.isDigit then
    some (digits.foldl (fun n c => n * 10 + (c.toNat - '0'.toNat)) 0)
  else none

/-- `rtc::FromString` for `uint32_t`. The text counts up to its first NUL, and a minus sign may stand
before a zero. -/
def fromString (source : Text) : Option UInt32 :=
  match source.takeWhile (· ≠ '\x00') with
  | '-' :: digits => if digitsValue digits = some 0 then some 0 else none
  | digits => (digitsValue digits).bind fun n => if n < 2 ^ 32 then some (.ofNat n) else none

/-- `hex_decode` of a character -/
def hexValue (ch : Char) : Option Nat :=
  if '0' ≤ ch ∧ ch ≤ '9' then some (ch.toNat - '0'.toNat)
  else if 'A' ≤ ch ∧ ch ≤ 'F' then some (ch.toNat - 'A'.toNat + 10)
  else if 'a' ≤ ch ∧ ch ≤ 'f' then some (ch.toNat - 'a'.toNat + 10)
  else none

/-- `hex_decode_with_delimiter`, where `none` stands for the result 0 of an error. -/
def hexDecode (delimiter : Char) : Text → Option Bytes
  | [] => some []
  | [_] => none
  | h₁ :: h₂ :: source => do
    let value := UInt8.ofNat ((← hexValue h₁) * 16 + (← hexValue h₂))
    match source with
    | [] => return [value]
    | [_] => none
    | c :: source => if c = delimiter then return value :: (← hexDecode delimiter source) else none

/-- `hex_encode` of half an octet, in upper case -/
def hexDigit (n : Nat) : Char := "0123456789ABCDEF".toList.getD n '!'

/-- `hex_encode_with_delimiter`, in upper case -/
def hexEncode (delimiter : Char) : Bytes → Text
  | [] => []
  | [b] => [hexDigit (b.toNat / 16), hexDigit (b.toNat % 16)]
  | b :: source =>
    hexDigit (b.toNat / 16) :: hexDigit (b.toNat % 16) :: delimiter :: hexEncode delimiter source

/-- A number as `operator<<` prints it. -/
def decimal (n : Nat) : Text := Nat.toDigits 10 n

lemma contains_iff {source pattern : Text} : contains source pattern = true ↔ pattern <:+: source :=
  decide_eq_true_iff

lemma split_append_cons {delimiter : Char} {l : Text} (h : delimiter ∉ l) (rest : Text) :
    split delimiter (l ++ delimiter :: rest) = l :: split delimiter rest := by
  induction l with
  | nil => rw [List.nil_append, split, if_pos rfl]
  | cons c l ih =>
    rw [List.mem_cons, not_or] at h
    rw [List.cons_append, split, if_neg (Ne.symm h.1), ih h.2]

lemma split_ne_nil (delimiter : Char) (source : Text) : split delimiter source ≠ [] := by
  cases source with
  | nil => exact List.cons_ne_nil _ _
  | cons c source =>
    unfold split
    split_ifs
    · exact List.cons_ne_nil _ _
    · split <;> exact List.cons_ne_nil _ _

/-- There are no fields where there is nothing but delimiters. -/
lemma tokenize_eq_nil_iff {delimiter : Char} {source : Text} :
    tokenize delimiter source = [] ↔ ∀ c ∈ source, c = delimiter := by
  induction source with
  | nil => exact iff_of_true rfl (by simp)
  | cons c source ih =>
    rw [List.forall_mem_cons]
    by_cases hc : c = delimiter
    · rw [and_iff_right hc, ← ih, tokenize, split, if_pos hc]
      rfl
    · refine iff_of_false ?_ fun h => hc h.1
      rw [tokenize, split, if_neg hc]
      split <;> simp

/-- The lines of a text, each of which ends in the delimiter, and what comes after them. -/
theorem tokenize_lines_append {delimiter : Char} {lines : List Text}
    (h : ∀ l ∈ lines, delimiter ∉ l) (rest : Text) :
    tokenize delimiter (lines.flatMap (· ++ [delimiter]) ++ rest) =
      lines.filter (· ≠ []) ++ tokenize delimiter rest := by
  induction lines with
  | nil => rfl
  | cons l lines ih =>
    rw [List.forall_mem_cons] at h
    have htail := ih h.2
    unfold tokenize at htail ⊢
    rw [List.flatMap_cons, List.append_assoc, List.append_assoc, List.singleton_append,
      split_append_cons h.1, ← List.singleton_append, List.filter_append, htail,
      ← List.append_assoc, ← List.filter_append, List.singleton_append]

/-- What is appended does not complete a pattern of two characters if it has not the second. -/
lemma infix_of_infix_append {a b : Char} {l rest : Text} (hrest : b ∉ rest)
    (h : [a, b] <:+: l ++ rest) : [a, b] <:+: l := by
  obtain ⟨u, v, h⟩ := h
  rw [List.append_assoc] at h
  rcases List.append_eq_append_iff.mp h with ⟨c, rfl, hc⟩ | ⟨c, rfl, hc⟩
  · match c with
    | [] =>
      rw [List.nil_append] at hc
      exact absurd (hc ▸ List.mem_cons_of_mem _ List.mem_cons_self) hrest
    | [x] =>
      have htail : b :: v = rest := (List.cons.inj hc).2
      exact absurd (htail ▸ List.mem_cons_self) hrest
    | x :: y :: c =>
      have hx : a = x := (List.cons.inj hc).1
      have hy : b = y := (List.cons.inj (List.cons.inj hc).2).1
      rw [← hx, ← hy]
      exact ⟨u, c, by simp⟩
  · refine absurd ?_ hrest
    rw [hc]
    simp

/-- Nor does one that has the second only where the first does not stand before it. -/
lemma infix_of_infix_append_cons {a b : Char} {l rest : Text} (hab : a ≠ b) (hb : b ∉ l)
    (ha : l.getLast? ≠ some a) (h : [a, b] <:+: l ++ b :: rest) : [a, b] <:+: rest := by
  obtain ⟨u, v, h⟩ := h
  have hlast : ∀ w, l ≠ w ++ [a] := fun w hw => ha (by rw [hw, List.getLast?_concat])
  have hsplit : (u ++ [a]) ++ b :: v = l ++ b :: rest := by rw [← h]; simp
  rcases List.append_eq_append_iff.mp hsplit with ⟨c, rfl, hc⟩ | ⟨c, hu, hc⟩
  · cases c with
    | nil => exact absurd (List.append_nil _) (hlast u)
    | cons x c => exact absurd (by rw [← (List.cons.inj hc).1]; simp) hb
  · cases c with
    | nil => exact absurd (by rw [hu, List.append_nil]) (hlast u)
    | cons x c =>
      obtain ⟨rfl, hrest⟩ := List.cons.inj hc
      rcases List.eq_nil_or_concat' c with rfl | ⟨c, y, rfl⟩
      · exact absurd (List.append_inj_right' hu rfl) (by simpa using hab)
      · rw [← List.cons_append, ← List.append_assoc] at hu
        have hy : [a] = [y] := List.append_inj_right' hu rfl
        rw [hrest, ← hy]
        exact ⟨c, v, by simp⟩

lemma mem_hexEncode {delimiter c : Char} {bytes : Bytes} (h : c ∈ hexEncode delimiter bytes) :
    c = delimiter ∨ ∃ n < 16, c = hexDigit n := by
  induction bytes with
  | nil => cases h
  | cons b bytes ih =>
    have hhigh : b.toNat / 16 < 16 := Nat.div_lt_of_lt_mul b.toNat_lt
    have hlow : b.toNat % 16 < 16 := Nat.mod_lt _ (by decide)
    cases bytes with
    | nil =>
      rcases List.mem_pair.mp h with rfl | rfl
      · exact Or.inr ⟨_, hhigh, rfl⟩
      · exact Or.inr ⟨_, hlow, rfl⟩
    | cons b' bytes =>
      rw [hexEncode.eq_3 _ _ _ (by simp), List.mem_cons, List.mem_cons, List.mem_cons] at h
      rcases h with rfl | rfl | rfl | h
      · exact Or.inr ⟨_, hhigh, rfl⟩
      · exact Or.inr ⟨_, hlow, rfl⟩
      · exact Or.inl rfl
      · exact ih h

lemma isDigit_of_mem_decimal {n : Nat} {c : Char} (h : c ∈ decimal n) : c.isDigit = true :=
  Nat.isDigit_of_mem_toDigits (by decide) (by decide) h

lemma split_of_not_mem {delimiter : Char} {l : Text} (h : delimiter ∉ l) :
    split delimiter l = [l] := by
  induction l with
  | nil => rfl
  | cons c l ih =>
    rw [List.mem_cons, not_or] at h
    rw [split, if_neg (Ne.symm h.1), ih h.2]

lemma tokenizeFirst_append {delimiter : Char} {l : Text} (h : delimiter ∉ l) (rest : Text) :
    tokenizeFirst delimiter (l ++ delimiter :: rest) =
      some (l, rest.dropWhile (· = delimiter)) := by
  have hl : ∀ c ∈ l, decide (c ≠ delimiter) = true := by
    intro c hc
    rw [decide_eq_true_iff]
    rintro rfl
    exact h hc
  rw [tokenizeFirst, if_pos (by simp), List.takeWhile_append_of_pos hl,
    List.dropWhile_append_of_pos hl, List.takeWhile_cons_of_neg (by simp),
    List.dropWhile_cons_of_neg (by simp), List.append_nil, List.dropWhile_cons_of_pos (by simp)]

/-- What is appended does not complete a pattern with which it shares no character. -/
lemma infix_of_infix_append_disjoint {pattern l rest : Text} (hrest : ∀ c ∈ pattern, c ∉ rest)
    (h : pattern <:+: l ++ rest) : pattern <:+: l := by
  obtain ⟨u, v, h⟩ := h
  rw [List.append_assoc] at h
  rcases List.append_eq_append_iff.mp h with ⟨c, rfl, hc⟩ | ⟨c, rfl, hc⟩
  · rcases List.append_eq_append_iff.mp hc with ⟨d, rfl, hd⟩ | ⟨d, rfl, hd⟩
    · exact ⟨u, d, by simp⟩
    · cases d with
      | nil => exact ⟨u, [], by simp⟩
      | cons x d => exact absurd (hd ▸ by simp) (hrest x (by simp))
  · cases pattern with
    | nil => exact List.nil_infix
    | cons x pattern => exact absurd (hc ▸ by simp) (hrest x (by simp))

lemma contains_eq_false {source pattern : Text} {c : Char} (hc : c ∈ pattern)
    (h : c ∉ source) : contains source pattern = false := by
  rw [Bool.eq_false_iff, ne_eq, contains_iff]
  exact fun hpattern => h (hpattern.subset hc)

lemma fromString_decimal (n : UInt32) : fromString (decimal n.toNat) = some n := by
  have hdigit : ∀ c ∈ decimal n.toNat, c.isDigit = true := fun c => isDigit_of_mem_decimal
  have hnul : (decimal n.toNat).takeWhile (· ≠ '\x00') = decimal n.toNat := by
    refine List.takeWhile_eq_self_iff.mpr fun c hc => ?_
    rw [decide_eq_true_iff]
    rintro rfl
    exact absurd (hdigit _ hc) (by decide)
  have hvalue : digitsValue (decimal n.toNat) = some n.toNat := by
    rw [digitsValue, if_pos ⟨Nat.toDigits_ne_nil, by simpa using hdigit⟩]
    have h := Nat.ofDigitChars_toDigits (b := 10) (n := n.toNat) (by decide) (by decide)
    rw [Nat.ofDigitChars_eq_foldl] at h
    simpa [Nat.mul_comm, decimal] using h
  rw [fromString, hnul]
  split
  · rename_i digits heq
    have hminus := hdigit '-' (heq ▸ List.mem_cons_self)
    exact absurd hminus (by decide)
  · rw [hvalue]
    simp [n.toNat_lt]

lemma notMem_of_mem_split {delimiter : Char} {source field : Text}
    (h : field ∈ split delimiter source) : delimiter ∉ field ∧ field ⊆ source := by
  induction source generalizing field with
  | nil =>
    rw [split, List.mem_singleton] at h
    rw [h]
    exact ⟨List.not_mem_nil, List.nil_subset _⟩
  | cons c source ih =>
    rw [split] at h
    split at h
    · rcases List.mem_cons.mp h with rfl | h
      · exact ⟨List.not_mem_nil, List.nil_subset _⟩
      · exact ⟨(ih h).1, List.subset_cons_of_subset _ (ih h).2⟩
    · rename_i hc
      cases hsplit : split delimiter source with
      | nil => exact absurd hsplit (split_ne_nil _ _)
      | cons first fields =>
        rw [hsplit] at h ih
        rcases List.mem_cons.mp h with rfl | h
        · obtain ⟨hnot, hsub⟩ := ih List.mem_cons_self
          refine ⟨fun hmem => ?_, List.cons_subset_cons _ hsub⟩
          rcases List.mem_cons.mp hmem with heq | hmem
          · exact hc heq.symm
          · exact hnot hmem
        · obtain ⟨hnot, hsub⟩ := ih (List.mem_cons_of_mem _ h)
          exact ⟨hnot, List.subset_cons_of_subset _ hsub⟩

/-- The first field is where the text starts. -/
lemma prefix_of_split_eq_cons {delimiter : Char} {source first : Text} {fields : List Text}
    (h : split delimiter source = first :: fields) : first <+: source := by
  induction source generalizing first fields with
  | nil =>
    rw [split, List.cons.injEq] at h
    rw [← h.1]
  | cons c source ih =>
    rw [split] at h
    split at h
    · rw [← (List.cons.inj h).1]
      exact List.nil_prefix
    · cases hsplit : split delimiter source with
      | nil => exact absurd hsplit (split_ne_nil _ _)
      | cons first' fields' =>
        rw [hsplit] at h
        rw [← (List.cons.inj h).1]
        exact List.cons_prefix_cons.mpr ⟨rfl, ih hsplit⟩

lemma tokenizeFirst_eq_some {delimiter : Char} {source l rest : Text}
    (h : tokenizeFirst delimiter source = some (l, rest)) :
    l ⊆ source ∧ rest ⊆ source ∧ rest.head? ≠ some delimiter := by
  unfold tokenizeFirst at h
  split at h
  · cases h
    refine ⟨(List.takeWhile_prefix _).subset,
      ((List.dropWhile_suffix _).trans (List.dropWhile_suffix _)).subset, fun hhead => ?_⟩
    have hnot := List.head?_dropWhile_not (· = delimiter) (source.dropWhile (· ≠ delimiter))
    rw [hhead] at hnot
    simp at hnot
  · cases h

end XrtcServer.Base
