import XrtcServer.Ice.Stun

/-!
# What the integrity check covers

The check of MESSAGE-INTEGRITY and the reader walk over the same octets by different rules. `Tiles`
is the type-length-value reading of the octets in front of the checked attribute. The file relates
the walk of the check and the walk of the reader to it, and from both says when the USERNAME and the
PRIORITY that the server acts on are the ones that were authenticated.
-/

namespace XrtcServer.Ice
open XrtcServer.Base XrtcServer.Core StunMessage

/-- An attribute in the type-length-value sequence of a message. -/
structure Tlv where
  type : Nat
  value : Bytes
  deriving DecidableEq, Repr

/-- The octets that an attribute takes. -/
def Tlv.size (t : Tlv) : Nat := 4 + padded t.value.length

/-- `l` is the encoding of `t`: type, length, value and padding. -/
def Encodes (l : Bytes) (t : Tlv) : Prop :=
  ∃ ty len pad, l = ty ++ (len ++ (t.value ++ pad)) ∧ ty.length = 2 ∧ ofBE ty = t.type ∧
    len.length = 2 ∧ ofBE len = t.value.length ∧ t.value.length + pad.length = padded t.value.length

/-- The octets are the encodings of the attributes, one after the other. -/
inductive Tiles : Bytes → List Tlv → Prop
  | nil : Tiles [] []
  | cons {l l' : Bytes} {t : Tlv} {T : List Tlv} (h : Encodes l t) (h' : Tiles l' T) :
      Tiles (l ++ l') (t :: T)

/-- The first value of a type. -/
def firstValue (T : List Tlv) (type : Nat) : Option Bytes :=
  (T.find? (·.type = type)).map Tlv.value

variable {l l' rest data : Bytes} {t : Tlv} {S T T' : List Tlv} {p pos fuel type : Nat}

lemma le_padded (n : Nat) : n ≤ padded n := by
  unfold padded; split <;> omega

lemma padded_mod (n : Nat) : padded n % 4 = 0 := by
  unfold padded; split <;> omega

lemma Encodes.length (h : Encodes l t) : l.length = t.size := by
  obtain ⟨ty, len, pad, rfl, hty, -, hlen, -, hpad⟩ := h
  simp only [List.length_append, Tlv.size]
  omega

lemma Tiles.length (h : Tiles l T) : l.length = (T.map Tlv.size).sum := by
  induction h with
  | nil => rfl
  | cons he _ ih => simp [he.length, ih]

lemma Tiles.split (h : Tiles l (S ++ T)) : ∃ l₁ l₂, l = l₁ ++ l₂ ∧ Tiles l₁ S ∧ Tiles l₂ T := by
  induction S generalizing l with
  | nil => exact ⟨[], l, rfl, .nil, h⟩
  | cons s S ih =>
    cases h with
    | cons he h' =>
      obtain ⟨l₁, l₂, rfl, h₁, h₂⟩ := ih h'
      exact ⟨_ ++ l₁, l₂, by simp, .cons he h₁, h₂⟩

lemma Encodes.unique {t' : Tlv} (h : Encodes l t) (h' : Encodes l' t')
    (heq : l ++ rest = l' ++ data) :
    l = l' ∧ t = t' := by
  obtain ⟨ty, len, pad, rfl, hty, htype, hlen, hlength, hpad⟩ := h
  obtain ⟨ty', len', pad', rfl, hty', htype', hlen', hlength', hpad'⟩ := h'
  simp only [List.append_assoc] at heq
  obtain ⟨rfl, hbody⟩ := List.append_inj heq (hty.trans hty'.symm)
  obtain ⟨rfl, hvalues⟩ := List.append_inj hbody (hlen.trans hlen'.symm)
  have hsame := hlength.symm.trans hlength'
  obtain ⟨hvalue, hpads⟩ := List.append_inj hvalues hsame
  obtain ⟨rfl, -⟩ := List.append_inj hpads (by rw [hsame] at hpad; omega)
  obtain ⟨type, value⟩ := t
  obtain ⟨type', value'⟩ := t'
  dsimp only at hvalue htype htype'
  rw [hvalue, ← htype, ← htype']
  exact ⟨rfl, rfl⟩

/-! ## The walk of the check -/

lemma exists_encodes {len : Nat} (htype : getBE data pos 2 = .ok type)
    (hlen : getBE data (pos + 2) 2 = .ok len) (hdata : pos + 4 + padded len ≤ data.length) :
    ∃ t : Tlv, t.type = type ∧ t.value.length = len ∧
      Encodes ((data.drop pos).take (4 + padded len)) t := by
  obtain ⟨-, htype⟩ := getBE_eq_ok htype
  obtain ⟨-, hlen⟩ := getBE_eq_ok hlen
  have hle := le_padded len
  obtain ⟨d, hd⟩ : ∃ d, d = data.drop pos := ⟨_, rfl⟩
  rw [← List.drop_drop, ← hd] at hlen
  rw [← hd] at htype ⊢
  have hdlen : 4 + padded len ≤ d.length := by
    rw [hd, List.length_drop]
    omega
  have hvalue : ((d.drop 4).take len).length = len := by
    rw [List.length_take, List.length_drop]
    omega
  refine ⟨⟨type, (d.drop 4).take len⟩, rfl, hvalue, d.take 2, (d.drop 2).take 2,
    ((d.drop 4).drop len).take (padded len - len), ?_, ?_, htype, ?_, ?_, ?_⟩
  · rw [show 4 + padded len = 2 + (2 + (len + (padded len - len))) by omega, List.take_add,
      List.take_add, List.take_add, List.drop_drop, List.drop_drop]
  · rw [List.length_take]
    omega
  · rw [List.length_take, List.length_drop]
    omega
  · rw [hvalue, hlen]
  · rw [hvalue, List.length_take, List.length_drop, List.length_drop]
    omega

lemma locateAttribute_succ (h : locateAttribute type data (fuel + 1) pos = .ok (some p)) :
    pos + 4 ≤ data.length ∧ ∃ ty, getBE data pos 2 = .ok ty ∧
      ((ty = type ∧ p = pos) ∨ (ty ≠ type ∧ ∃ len, getBE data (pos + 2) 2 = .ok len ∧
        locateAttribute type data fuel (pos + 4 + padded len) = .ok (some p))) := by
  rw [locateAttribute, kStunAttributeHeaderSize] at h
  by_cases hpos : pos + 4 ≤ data.length
  · have hty := getBE_of_le data pos 2 (by omega)
    have hlen := getBE_of_le data (pos + 2) 2 (by omega)
    rw [if_pos hpos, hty, hlen] at h
    refine ⟨hpos, _, hty, ?_⟩
    by_cases heq : ofBE ((data.drop pos).take 2) = type
    · simp only [bind, Except.bind, heq, if_true, pure, Except.pure, Except.ok.injEq,
        Option.some.injEq] at h
      exact Or.inl ⟨heq, h.symm⟩
    · simp only [bind, Except.bind, heq, if_false] at h
      exact Or.inr ⟨heq, _, hlen, h⟩
  · rw [if_neg hpos] at h
    cases h

lemma tiles_of_locateAttribute (h : locateAttribute type data fuel pos = .ok (some p)) :
    pos ≤ p ∧ p + 4 ≤ data.length ∧ getBE data p 2 = .ok type ∧
      ∃ T, Tiles ((data.take p).drop pos) T ∧ ∀ t ∈ T, t.type ≠ type := by
  induction fuel generalizing pos with
  | zero => cases h
  | succ fuel ih =>
    obtain ⟨hpos, ty, hty, ⟨rfl, rfl⟩ | ⟨hne, len, hlen, hnext⟩⟩ := locateAttribute_succ h
    · exact ⟨Nat.le_refl p, hpos, hty, [], by simpa using Tiles.nil, by simp⟩
    · obtain ⟨hle, hp, htype, T, hT, hother⟩ := ih hnext
      obtain ⟨t, rfl, -, ht⟩ := exists_encodes hty hlen (by omega)
      refine ⟨by omega, hp, htype, t :: T, ?_, List.forall_mem_cons.mpr ⟨hne, hother⟩⟩
      have hsplit : (data.take p).drop pos = (data.drop pos).take (4 + padded len) ++
          (data.take p).drop (pos + 4 + padded len) := by
        rw [List.drop_take, List.drop_take,
          show p - pos = 4 + padded len + (p - (pos + 4 + padded len)) by omega, List.take_add,
          List.drop_drop, Nat.add_assoc]
      rw [hsplit]
      exact .cons ht hT

lemma locateAttribute_of_tiles (h : Tiles ((data.take p).drop pos) T)
    (hother : ∀ t ∈ T, t.type ≠ type) (hle : pos ≤ p) (hp : p + 4 ≤ data.length)
    (htype : getBE data p 2 = .ok type) (hfuel : T.length < fuel) :
    locateAttribute type data fuel pos = .ok (some p) := by
  induction T generalizing pos fuel with
  | nil =>
    have hlen := h.length
    rw [List.length_drop, List.length_take] at hlen
    obtain rfl : pos = p := by
      simp only [List.map_nil, List.sum_nil] at hlen
      omega
    obtain ⟨fuel, rfl⟩ : ∃ n, fuel = n + 1 := ⟨fuel - 1, by omega⟩
    rw [locateAttribute, kStunAttributeHeaderSize, if_pos hp, htype]
    simp only [bind, Except.bind, if_true, pure, Except.pure]
  | cons t T ih =>
    obtain ⟨fuel, rfl⟩ : ∃ n, fuel = n + 1 := ⟨fuel - 1, by omega⟩
    obtain ⟨hne, hother⟩ := List.forall_mem_cons.mp hother
    generalize hseg : (data.take p).drop pos = seg at h
    cases h with
    | @cons l l' _ _ he hT =>
      have hsize := he.length
      obtain ⟨ty, len, pad, rfl, hty, hty', hlen, hlength, hpad⟩ := he
      have hdrop : data.drop pos =
          ty ++ (len ++ (t.value ++ pad)) ++ l' ++ data.drop p := by
        rw [← hseg, List.drop_take]
        have hpp : data.drop p = (data.drop pos).drop (p - pos) := by
          rw [List.drop_drop, Nat.add_sub_cancel' hle]
        rw [hpp, List.take_append_drop]
      have hsegment := congrArg List.length hseg
      rw [List.length_drop, List.length_take, List.length_append, hsize, Tlv.size] at hsegment
      simp only [List.append_assoc] at hdrop
      have hgetType := getBE_of_drop hdrop hty (by decide)
      have hdrop₂ : data.drop (pos + 2) = len ++ (t.value ++ (pad ++ (l' ++ data.drop p))) := by
        rw [← List.drop_drop, hdrop, ← hty, List.drop_left]
      have hgetLen := getBE_of_drop hdrop₂ hlen (by decide)
      have hnext : (data.take p).drop (pos + 4 + padded t.value.length) = l' := by
        rw [Nat.add_assoc, ← List.drop_drop, hseg, ← Tlv.size, ← hsize, List.drop_left]
      rw [locateAttribute, kStunAttributeHeaderSize, if_pos (by omega), hgetType, hgetLen, hty',
        hlength]
      simp only [bind, Except.bind, hne, if_false]
      exact ih (hnext ▸ hT) hother (by omega) (by rw [List.length_cons] at hfuel; omega)

lemma Tiles.four_mul_length_le (h : Tiles l T) : 4 * T.length ≤ l.length := by
  induction h with
  | nil => exact Nat.le_refl _
  | cons he _ ih =>
    have hsize := he.length
    rw [Tlv.size] at hsize
    rw [List.length_append, List.length_cons]
    omega

/-- The position of MESSAGE-INTEGRITY, by the sequence in front of it. -/
lemma locateMessageIntegrity_eq_some_iff : locateMessageIntegrity data = .ok (some p) ↔
    kStunHeaderSize ≤ p ∧ p + 4 ≤ data.length ∧ getBE data p 2 = .ok stunAttrMessageIntegrity ∧
      ∃ T, Tiles ((data.take p).drop kStunHeaderSize) T ∧
        ∀ t ∈ T, t.type ≠ stunAttrMessageIntegrity := by
  constructor
  · exact tiles_of_locateAttribute
  · rintro ⟨hle, hp, htype, T, hT, hother⟩
    have hlen := hT.four_mul_length_le
    rw [List.length_drop, List.length_take] at hlen
    exact locateAttribute_of_tiles hT hother hle hp htype (by omega)

/-! ## The walk of the reader -/

/-- The object that the reader makes of a well-formed attribute. -/
def toAttribute (t : Tlv) : Option StunAttribute :=
  match getAttributeValueType t.type with
  | .stunValueUnknown => none
  | .stunValueByteString => some (.byteString t.type t.value)
  | .stunValueUInt32 => some (.uint32 t.type (ofBE t.value))

/-- The reader moves over the attribute as the type-length-value reading does: it takes four octets
for the value of a PRIORITY, whatever the length in the message says. -/
def InSync (t : Tlv) : Prop := t.type = stunAttrPriority → t.value.length = 4

instance (t : Tlv) : Decidable (InSync t) := by unfold InSync; infer_instance

lemma getAttributeValueType_uint32 :
    getAttributeValueType type = .stunValueUInt32 ↔ type = stunAttrPriority := by
  unfold getAttributeValueType stunAttrUsername stunAttrMessageIntegrity stunAttrPriority
  split
  · simp_all
  · split
    · simp_all
    · split <;> simp_all

lemma length_consumePadding (length : Nat) (buf : Bytes) :
    (consumePadding length buf).length ≤ buf.length := by
  unfold consumePadding
  split
  · cases hc : consume (4 - length % 4) buf with
    | none => simp
    | some rest =>
      obtain ⟨v, rfl, -⟩ := consume_eq_some hc
      simp
  · exact Nat.le_refl _

lemma readValue_spec {len : Nat} {x : Option StunAttribute}
    (h : readValue type len l = some (x, rest)) :
    rest.length ≤ l.length ∧ ∀ a, x = some a → a.type = type ∧
      getAttributeValueType type ≠ .stunValueUnknown := by
  unfold readValue at h
  split at h
  · obtain ⟨r, hr, hx⟩ := Option.map_eq_some_iff.mp h
    obtain ⟨v, rfl, -⟩ := consume_eq_some hr
    cases hx
    simp
  · rename_i hty
    obtain ⟨⟨a, r⟩, hr, hx⟩ := Option.map_eq_some_iff.mp h
    obtain ⟨⟨v, r'⟩, hv, ha⟩ := Option.map_eq_some_iff.mp hr
    obtain ⟨rfl, -⟩ := readBytes_eq_some hv
    cases ha
    cases hx
    refine ⟨Nat.le_trans (length_consumePadding ..) (by simp), ?_⟩
    rintro a ⟨⟩
    exact ⟨rfl, by simp [hty]⟩
  · rename_i hty
    obtain ⟨⟨a, r⟩, hr, hx⟩ := Option.map_eq_some_iff.mp h
    obtain ⟨⟨v, r'⟩, hv, ha⟩ := Option.map_eq_some_iff.mp hr
    obtain ⟨v', rfl, -⟩ := readUInt32_eq_some hv
    cases ha
    cases hx
    refine ⟨by simp, ?_⟩
    rintro a ⟨⟩
    exact ⟨rfl, by simp [hty]⟩

lemma exists_readValue {x : Option StunAttribute} (h : readAttribute l = some (x, rest)) :
    ∃ ty len l', l'.length + 4 = l.length ∧ readValue ty len l' = some (x, rest) := by
  obtain ⟨⟨ty, l₁⟩, hty, hrest⟩ := Option.bind_eq_some_iff.mp h
  obtain ⟨⟨len, l₂⟩, hlen, hvalue⟩ := Option.bind_eq_some_iff.mp hrest
  obtain ⟨v₁, rfl, hv₁, -⟩ := readUInt16_eq_some hty
  obtain ⟨v₂, rfl, hv₂, -⟩ := readUInt16_eq_some hlen
  refine ⟨ty, len, l₂, ?_, hvalue⟩
  simp only [List.length_append]
  omega

lemma consumes_readAttribute : Consumes readAttribute := by
  intro l x rest h
  obtain ⟨ty, len, l', hl', hv⟩ := exists_readValue h
  have hle := (readValue_spec hv).1
  omega

lemma type_of_readAttributes {attrs : List StunAttribute} (h : readAttributes l = some attrs) :
    ∀ a ∈ attrs, getAttributeValueType a.type ≠ .stunValueUnknown := by
  refine forall_of_readWhole consumes_readAttribute (fun l a rest ha => ?_) h
  obtain ⟨ty, len, l', -, hv⟩ := exists_readValue ha
  obtain ⟨htype, hknown⟩ := (readValue_spec hv).2 a rfl
  rw [htype]
  exact hknown

lemma consumePadding_append {n : Nat} {pad : Bytes} (hpad : n + pad.length = padded n)
    (rest : Bytes) : consumePadding n (pad ++ rest) = rest := by
  unfold consumePadding
  unfold padded at hpad
  by_cases hn : n % 4 = 0
  · have hnil : pad = [] := by
      rw [if_neg (by simpa using hn)] at hpad
      exact List.eq_nil_of_length_eq_zero (by omega)
    simp [hn, hnil]
  · rw [if_pos hn] at hpad
    rw [if_pos (Nat.pos_of_ne_zero hn), consume_append (by omega), Option.getD_some]

lemma Encodes.readAttribute (h : Encodes l t) (hsync : InSync t) (hlen : l.length < 2 ^ 16)
    (rest : Bytes) : readAttribute (l ++ rest) = some (toAttribute t, rest) := by
  have hsize := h.length
  obtain ⟨ty, len, pad, rfl, hty, htype, hlen2, hlength, hpad⟩ := h
  unfold StunMessage.readAttribute
  simp only [List.append_assoc, readUInt16_append hty, Option.bind_some, readUInt16_append hlen2,
    htype, hlength]
  unfold readValue toAttribute
  cases hkind : getAttributeValueType t.type with
  | stunValueUnknown =>
    have hmod : padded t.value.length % 2 ^ 16 = (t.value ++ pad).length := by
      rw [List.length_append, hpad]
      refine Nat.mod_eq_of_lt ?_
      rw [Tlv.size] at hsize
      omega
    simp only
    rw [← List.append_assoc, consume_append hmod.symm, Option.map_some]
  | stunValueByteString =>
    simp only [readByteString, readBytes_append rfl, Option.map_some, consumePadding_append hpad,
      Prod.map_apply, id_eq]
  | stunValueUInt32 =>
    have hfour := hsync (getAttributeValueType_uint32.mp hkind)
    have hnil : pad = [] := by
      rw [hfour, padded, if_neg (by decide)] at hpad
      exact List.eq_nil_of_length_eq_zero (by omega)
    simp only [readUInt32Attribute, readUInt32_append hfour, hnil, List.nil_append,
      Option.map_some, Prod.map_apply, id_eq]

/-- Attributes in sync are read as the type-length-value sequence. -/
lemma Tiles.readAttributes (h : Tiles l T) (hsync : ∀ t ∈ T, InSync t) (hlen : l.length < 2 ^ 16)
    (rest : Bytes) : readAttributes (l ++ rest) =
      (readAttributes rest).map (T.filterMap toAttribute ++ ·) := by
  induction h with
  | nil => simp
  | @cons l l' t T he h ih =>
    simp only [List.length_append] at hlen
    obtain ⟨hs, hrest⟩ := List.forall_mem_cons.mp hsync
    have hstep := he.readAttribute hs (by omega) (l' ++ rest)
    have hne : l ++ (l' ++ rest) ≠ [] := by
      have hsize := he.length
      rw [Tlv.size] at hsize
      refine List.ne_nil_of_length_pos ?_
      rw [List.length_append]
      omega
    rw [List.append_assoc, StunMessage.readAttributes,
      readWhole_of_step consumes_readAttribute hstep hne]
    have ih := ih hrest (by omega)
    rw [StunMessage.readAttributes] at ih
    rw [ih, Option.map_map]
    congr 1
    funext attrs
    cases ha : toAttribute t <;> simp [ha]

end XrtcServer.Ice
