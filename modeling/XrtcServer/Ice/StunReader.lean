import XrtcServer.Ice.StunIntegrity

/-!
# What the reader accepts

The loop of `StunMessage::read` takes more than well-formed attributes. `Reads` is the grammar of
what it takes. The file proves that the reader accepts exactly this, and from it says on which
octets `read` returns true exactly for a well-formed message.
-/

namespace XrtcServer.Ice
open XrtcServer.Base XrtcServer.Core StunMessage

variable {l rest data : Bytes} {t : Tlv} {T : List Tlv} {a : Option StunAttribute}
  {attrs : List StunAttribute} {msg : StunMessage} {x : StunAttribute}

/-- The octets `l` in front of `rest` are taken for an attribute but encode none: a PRIORITY whose
length is not four, an attribute of another type whose padded length is zero in 16 bits, or a byte
string at the end without its padding. -/
inductive OddAttribute : Bytes → Bytes → Option StunAttribute → Prop
  | priority {ty len value rest : Bytes} (hty : ty.length = 2) (htype : ofBE ty = stunAttrPriority)
      (hlen : len.length = 2) (hlength : ofBE len ≠ 4) (hvalue : value.length = 4) :
      OddAttribute (ty ++ (len ++ value)) rest (some (.uint32 stunAttrPriority (ofBE value)))
  | wrapped {ty len rest : Bytes} (hty : ty.length = 2)
      (htype : getAttributeValueType (ofBE ty) = .stunValueUnknown) (hlen : len.length = 2)
      (hlength : 65533 ≤ ofBE len) : OddAttribute (ty ++ len) rest none
  | unpadded {ty len value : Bytes} (hty : ty.length = 2)
      (htype : getAttributeValueType (ofBE ty) = .stunValueByteString) (hlen : len.length = 2)
      (hlength : ofBE len = value.length) (hpad : value.length % 4 ≠ 0) :
      OddAttribute (ty ++ (len ++ value)) [] (some (.byteString (ofBE ty) value))

/-- The reader makes the attributes `attrs` of the octets. -/
inductive Reads : Bytes → List StunAttribute → Prop
  | nil : Reads [] []
  | cons {l rest : Bytes} {t : Tlv} {attrs : List StunAttribute} (h : Encodes l t)
      (hsync : InSync t) (hrest : Reads rest attrs) :
      Reads (l ++ rest) ((toAttribute t).toList ++ attrs)
  | odd {l rest : Bytes} {a : Option StunAttribute} {attrs : List StunAttribute}
      (h : OddAttribute l rest a) (hrest : Reads rest attrs) : Reads (l ++ rest) (a.toList ++ attrs)

/-- The octets are taken for attributes, at least one of which is odd. -/
inductive OddlyRead : Bytes → Prop
  | here {l rest : Bytes} {a : Option StunAttribute} {attrs : List StunAttribute}
      (h : OddAttribute l rest a) (hrest : Reads rest attrs) : OddlyRead (l ++ rest)
  | there {l rest : Bytes} {t : Tlv} (h : Encodes l t) (hsync : InSync t)
      (hrest : OddlyRead rest) : OddlyRead (l ++ rest)

/-! ## The loop -/

lemma encodes_append {ty len value pad : Bytes} (hty : ty.length = 2) (hlen : len.length = 2)
    (hlength : ofBE len = value.length) (hpad : value.length + pad.length = padded value.length) :
    Encodes (ty ++ (len ++ (value ++ pad))) ⟨ofBE ty, value⟩ :=
  ⟨ty, len, pad, rfl, hty, rfl, hlen, hlength, hpad⟩

lemma readAttributes_short (hne : l ≠ []) (hlen : l.length < 4) : readAttributes l = none := by
  cases h : readAttributes l with
  | none => rfl
  | some attrs =>
    obtain ⟨x, rest, ys, hstep, -, -⟩ := exists_step_of_readWhole consumes_readAttribute h hne
    obtain ⟨ty, len, l', hl', -⟩ := exists_readValue hstep
    omega

/-- What one turn of the loop takes: an attribute, something odd, or so much that it leaves less than
a header. -/
def TakesOne (l : Bytes) (a : Option StunAttribute) (rest : Bytes) : Prop :=
  ∃ l₁, l = l₁ ++ rest ∧ ((∃ t, Encodes l₁ t ∧ InSync t ∧ a = toAttribute t) ∨
    OddAttribute l₁ rest a ∨ rest ≠ [] ∧ rest.length < 4)

section turn
variable {ty len buf : Bytes} (hty : ty.length = 2) (hlen : len.length = 2)
include hty hlen

lemma takesOne_unknown (hkind : getAttributeValueType (ofBE ty) = .stunValueUnknown)
    (h : consume (padded (ofBE len) % 2 ^ 16) buf = some rest) :
    TakesOne (ty ++ (len ++ buf)) none rest := by
  obtain ⟨w, rfl, hw⟩ := consume_eq_some h
  have hlt := ofBE_lt len
  rw [hlen] at hlt
  by_cases hwrap : 65533 ≤ ofBE len
  · have hzero : padded (ofBE len) % 2 ^ 16 = 0 := by
      unfold padded
      split <;> omega
    rw [hzero] at hw
    obtain rfl := List.eq_nil_of_length_eq_zero hw
    exact ⟨ty ++ len, by simp, Or.inr (Or.inl (.wrapped hty hkind hlen hwrap))⟩
  · have hsmall : padded (ofBE len) < 2 ^ 16 := by
      unfold padded
      split <;> omega
    rw [Nat.mod_eq_of_lt hsmall] at hw
    have hle := le_padded (ofBE len)
    have htake : (w.take (ofBE len)).length = ofBE len := List.length_take_of_le (hw ▸ hle)
    have hpad : (w.take (ofBE len)).length + (w.drop (ofBE len)).length =
        padded (w.take (ofBE len)).length := by
      rw [htake, List.length_drop, hw]
      omega
    have hencodes := encodes_append hty hlen htake.symm hpad
    rw [List.take_append_drop] at hencodes
    refine ⟨ty ++ (len ++ w), by simp, Or.inl ⟨_, hencodes, ?_, ?_⟩⟩
    · intro hprio
      rw [getAttributeValueType_uint32.mpr hprio] at hkind
      cases hkind
    · simp only [toAttribute, hkind]

lemma takesOne_byteString (hkind : getAttributeValueType (ofBE ty) = .stunValueByteString)
    (h : readByteString (ofBE ty) (ofBE len) buf = some (x, rest)) :
    TakesOne (ty ++ (len ++ buf)) (some x) rest := by
  obtain ⟨⟨value, buf'⟩, hvalue, hx⟩ := Option.map_eq_some_iff.mp h
  cases hx
  obtain ⟨rfl, hlength⟩ := readBytes_eq_some hvalue
  have hsync : InSync ⟨ofBE ty, value⟩ := by
    intro hprio
    rw [getAttributeValueType_uint32.mpr hprio] at hkind
    cases hkind
  have hattribute : some (.byteString (ofBE ty) value) = toAttribute ⟨ofBE ty, value⟩ := by
    simp only [toAttribute, hkind]
  rw [← hlength]
  by_cases hpadded : padded value.length - value.length ≤ buf'.length
  · obtain ⟨pad, buf, rfl, hpad⟩ : ∃ pad buf, buf' = pad ++ buf ∧
        pad.length = padded value.length - value.length :=
      ⟨_, _, (List.take_append_drop _ buf').symm, List.length_take_of_le hpadded⟩
    have hle := le_padded value.length
    have hsum : value.length + pad.length = padded value.length := by omega
    rw [consumePadding_append hsum]
    exact ⟨ty ++ (len ++ (value ++ pad)), by simp,
      Or.inl ⟨_, encodes_append hty hlen hlength.symm hsum, hsync, hattribute⟩⟩
  · have hmod : value.length % 4 ≠ 0 := by
      intro hmod
      rw [padded, if_neg (not_not.mpr hmod), Nat.sub_self] at hpadded
      exact hpadded (Nat.zero_le _)
    rw [padded, if_pos hmod] at hpadded
    have hnone : consumePadding value.length buf' = buf' := by
      rw [consumePadding, if_pos (Nat.pos_of_ne_zero hmod), consume, readBytes, if_neg (by omega),
        Option.map_none, Option.getD_none]
    rw [hnone]
    refine ⟨ty ++ (len ++ value), by simp, Or.inr ?_⟩
    by_cases hnil : buf' = []
    · rw [hnil]
      exact Or.inl (.unpadded hty hkind hlen hlength.symm hmod)
    · exact Or.inr ⟨hnil, by omega⟩

lemma takesOne_uint32 (hkind : getAttributeValueType (ofBE ty) = .stunValueUInt32)
    (h : readUInt32Attribute (ofBE ty) buf = some (x, rest)) :
    TakesOne (ty ++ (len ++ buf)) (some x) rest := by
  obtain ⟨⟨n, buf'⟩, hn, hx⟩ := Option.map_eq_some_iff.mp h
  cases hx
  obtain ⟨value, rfl, hvalue, rfl⟩ := readUInt32_eq_some hn
  have htype := getAttributeValueType_uint32.mp hkind
  refine ⟨ty ++ (len ++ value), by simp, ?_⟩
  by_cases hfour : ofBE len = 4
  · have hpad : value.length + ([] : Bytes).length = padded value.length := by
      rw [hvalue]
      rfl
    have hencodes := encodes_append hty hlen (hfour.trans hvalue.symm) hpad
    rw [List.append_nil] at hencodes
    refine Or.inl ⟨_, hencodes, fun _ => hvalue, ?_⟩
    simp only [toAttribute, hkind]
  · rw [htype]
    exact Or.inr (Or.inl (.priority hty htype hlen hfour hvalue))

end turn

lemma takesOne_of_readAttribute (h : readAttribute l = some (a, rest)) : TakesOne l a rest := by
  obtain ⟨⟨type, l₁⟩, htype, h⟩ := Option.bind_eq_some_iff.mp h
  obtain ⟨⟨length, l₂⟩, hlength, h⟩ := Option.bind_eq_some_iff.mp h
  obtain ⟨ty, rfl, hty, rfl⟩ := readUInt16_eq_some htype
  obtain ⟨len, rfl, hlen, rfl⟩ := readUInt16_eq_some hlength
  simp only at h
  unfold readValue at h
  cases hkind : getAttributeValueType (ofBE ty) with
  | stunValueUnknown =>
    rw [hkind] at h
    obtain ⟨r, hr, hx⟩ := Option.map_eq_some_iff.mp h
    cases hx
    exact takesOne_unknown hty hlen hkind hr
  | stunValueByteString =>
    rw [hkind] at h
    obtain ⟨⟨x, r⟩, hr, hx⟩ := Option.map_eq_some_iff.mp h
    cases hx
    exact takesOne_byteString hty hlen hkind hr
  | stunValueUInt32 =>
    rw [hkind] at h
    obtain ⟨⟨x, r⟩, hr, hx⟩ := Option.map_eq_some_iff.mp h
    cases hx
    exact takesOne_uint32 hty hlen hkind hr

lemma OddAttribute.readAttribute (h : OddAttribute l rest a) :
    readAttribute (l ++ rest) = some (a, rest) := by
  unfold StunMessage.readAttribute readValue
  cases h with
  | priority hty htype hlen hlength hvalue =>
    simp only [List.append_assoc, readUInt16_append hty, readUInt16_append hlen, Option.bind_some,
      htype, getAttributeValueType_uint32.mpr rfl, readUInt32Attribute, readUInt32_append hvalue,
      Option.map_some, Prod.map_apply, id_eq]
  | @wrapped ty len rest hty htype hlen hlength =>
    have hlt := ofBE_lt len
    rw [hlen] at hlt
    have hzero : padded (ofBE len) % 2 ^ 16 = 0 := by
      unfold padded
      split <;> omega
    have hconsume : consume 0 rest = some rest := consume_append (v := []) rfl rest
    simp only [List.append_assoc, readUInt16_append hty, readUInt16_append hlen, Option.bind_some,
      htype, hzero, hconsume, Option.map_some]
  | @unpadded ty len value hty htype hlen hlength hpad =>
    have hread : readBytes value.length value = some (value, []) := by
      rw [readBytes, if_pos (Nat.le_refl _), List.take_length, List.drop_length]
    have hnone : consumePadding value.length [] = [] := by
      rw [consumePadding, if_pos (Nat.pos_of_ne_zero hpad), consume, readBytes, if_neg,
        Option.map_none, Option.getD_none]
      rw [List.length_nil]
      omega
    simp only [List.append_nil, readUInt16_append hty, readUInt16_append hlen, Option.bind_some,
      htype, hlength, readByteString, hread, hnone, Option.map_some, Prod.map_apply, id_eq]

lemma OddAttribute.length_pos (h : OddAttribute l rest a) : 0 < l.length := by
  cases h <;> simp only [List.length_append] <;> omega

lemma Encodes.length_pos (h : Encodes l t) : 0 < l.length := by
  rw [h.length, Tlv.size]
  omega

/-- The loop accepts what the grammar says, with these attributes. -/
theorem readAttributes_eq_some_iff (hlen : l.length < 2 ^ 16) :
    readAttributes l = some attrs ↔ Reads l attrs := by
  constructor
  · intro h
    induction hn : l.length using Nat.strongRecOn generalizing l attrs with
    | _ n ih =>
      by_cases hl : l = []
      · subst hl
        cases h
        exact .nil
      · obtain ⟨x, rest, ys, hstep, hys, rfl⟩ :=
          exists_step_of_readWhole consumes_readAttribute h hl
        have hless := consumes_readAttribute l x rest hstep
        have hrest := ih rest.length (by omega) (by omega) hys rfl
        obtain ⟨l₁, rfl, ⟨t, ht, hsync, rfl⟩ | hodd | ⟨hne, hshort⟩⟩ :=
          takesOne_of_readAttribute hstep
        · exact .cons ht hsync hrest
        · exact .odd hodd hrest
        · have hnone := readAttributes_short hne hshort
          cases hnone.symm.trans hys
  · intro h
    induction h with
    | nil => rfl
    | @cons l rest t attrs ht hsync hrest ih =>
      rw [List.length_append] at hlen
      have hstep := ht.readAttribute hsync (by omega) rest
      have hne : l ++ rest ≠ [] :=
        List.append_ne_nil_of_left_ne_nil (List.ne_nil_of_length_pos ht.length_pos) _
      have hih : readWhole readAttribute rest = some attrs := ih (by omega)
      rw [readAttributes, readWhole_of_step consumes_readAttribute hstep hne, hih, Option.map_some]
    | @odd l rest a attrs hodd hrest ih =>
      rw [List.length_append] at hlen
      have hne : l ++ rest ≠ [] :=
        List.append_ne_nil_of_left_ne_nil (List.ne_nil_of_length_pos hodd.length_pos) _
      have hih : readWhole readAttribute rest = some attrs := ih (by omega)
      rw [readAttributes, readWhole_of_step consumes_readAttribute hodd.readAttribute hne, hih,
        Option.map_some]

/-- The octets are well-formed attributes, or something among them is odd. -/
lemma Reads.tiles_or_odd (h : Reads l attrs) :
    (∃ T, Tiles l T ∧ (∀ t ∈ T, InSync t) ∧ attrs = T.filterMap toAttribute) ∨ OddlyRead l := by
  induction h with
  | nil => exact Or.inl ⟨[], .nil, by simp, rfl⟩
  | @cons l rest t attrs ht hsync hrest ih =>
    rcases ih with ⟨T, hT, hall, rfl⟩ | hodd
    · refine Or.inl ⟨t :: T, .cons ht hT, List.forall_mem_cons.mpr ⟨hsync, hall⟩, ?_⟩
      cases ha : toAttribute t <;> simp [ha]
    · exact Or.inr (.there ht hsync hodd)
  | odd hodd hrest => exact Or.inr (.here hodd hrest)

lemma Tiles.reads (h : Tiles l T) (hsync : ∀ t ∈ T, InSync t) :
    Reads l (T.filterMap toAttribute) := by
  induction h with
  | nil => exact .nil
  | @cons l l' t T ht hT ih =>
    obtain ⟨hs, hall⟩ := List.forall_mem_cons.mp hsync
    have hreads := Reads.cons ht hs (ih hall)
    cases ha : toAttribute t <;> simpa [ha] using hreads

lemma OddlyRead.reads (h : OddlyRead l) : ∃ attrs, Reads l attrs := by
  induction h with
  | here hodd hrest => exact ⟨_, .odd hodd hrest⟩
  | there ht hsync _ ih =>
    obtain ⟨attrs, hrest⟩ := ih
    exact ⟨_, .cons ht hsync hrest⟩

lemma OddAttribute.not_encodes {l' rest' : Bytes} (h : OddAttribute l rest a) (h' : Encodes l' t)
    (hsync : InSync t) (heq : l ++ rest = l' ++ rest') (hlen : l'.length < 65533) : False := by
  have hsize := h'.length
  have hle := le_padded t.value.length
  obtain ⟨ty', len', pad', rfl, hty', htype', hlen', hlength', hpad'⟩ := h'
  cases h with
  | @priority ty len value rest hty htype hlen₂ hlength hvalue =>
    simp only [List.append_assoc] at heq
    obtain ⟨rfl, hbody⟩ := List.append_inj heq (hty.trans hty'.symm)
    obtain ⟨rfl, -⟩ := List.append_inj hbody (hlen₂.trans hlen'.symm)
    exact hlength (hlength'.trans (hsync (htype'.symm.trans htype)))
  | @wrapped ty len rest hty htype hlen₂ hlength =>
    simp only [List.append_assoc] at heq
    obtain ⟨rfl, hbody⟩ := List.append_inj heq (hty.trans hty'.symm)
    obtain ⟨rfl, -⟩ := List.append_inj hbody (hlen₂.trans hlen'.symm)
    rw [Tlv.size] at hsize
    omega
  | @unpadded ty len value hty htype hlen₂ hlength hpad =>
    have htotal := congrArg List.length heq
    simp only [List.append_assoc, List.append_nil] at heq
    obtain ⟨rfl, hbody⟩ := List.append_inj heq (hty.trans hty'.symm)
    obtain ⟨rfl, -⟩ := List.append_inj hbody (hlen₂.trans hlen'.symm)
    have hsame : value.length = t.value.length := hlength.symm.trans hlength'
    rw [padded, if_pos (hsame ▸ hpad)] at hpad'
    simp only [List.length_append, List.length_nil] at htotal
    omega

/-- The two cases exclude each other on messages that fit a datagram. -/
lemma OddlyRead.not_tiles (h : OddlyRead l) (hlen : l.length < 65533) :
    ¬ ∃ T, Tiles l T ∧ ∀ t ∈ T, InSync t := by
  induction h with
  | @here l rest a attrs hodd hrest =>
    rintro ⟨T, hT, hall⟩
    generalize heq : l ++ rest = m at hT hlen
    cases hT with
    | nil =>
      have hpos := hodd.length_pos
      rw [(List.append_eq_nil_iff.mp heq).1] at hpos
      exact absurd hpos (Nat.lt_irrefl 0)
    | cons ht hT =>
      rw [List.length_append] at hlen
      exact hodd.not_encodes ht (List.forall_mem_cons.mp hall).1 heq (by omega)
  | @there l rest t ht hsync hrest ih =>
    rintro ⟨T, hT, hall⟩
    rw [List.length_append] at hlen
    refine ih (by omega) ?_
    generalize heq : l ++ rest = m at hT
    cases hT with
    | nil =>
      have hpos := ht.length_pos
      rw [(List.append_eq_nil_iff.mp heq).1] at hpos
      exact absurd hpos (Nat.lt_irrefl 0)
    | cons ht' hT =>
      obtain ⟨rfl, rfl⟩ := ht.unique ht' heq
      obtain rfl := List.append_cancel_left heq
      exact ⟨_, hT, (List.forall_mem_cons.mp hall).2⟩

/-! ## The message -/

def headerType (data : Bytes) : Nat := ofBE (data.take 2)

def headerLength (data : Bytes) : Nat := ofBE ((data.drop 2).take 2)

/-- The transaction that `read` finds, which has the octets in place of the magic cookie if these are
others. -/
def headerTransactionId (data : Bytes) : Bytes :=
  let magicCookie := (data.drop 4).take kStunMagicCookieLength
  let transactionId := (data.drop 8).take kStunTransactionIdLength
  if ofBE magicCookie ≠ kStunMagicCookie then magicCookie ++ transactionId else transactionId

/-- The header is there and gives the length of the rest. -/
def Framed (data : Bytes) : Prop := data.length = kStunHeaderSize + headerLength data

lemma length_of_read (h : read data = some msg) : kStunHeaderSize ≤ data.length := by
  obtain ⟨⟨type, l₁⟩, h₁, h⟩ := Option.bind_eq_some_iff.mp h
  dsimp only at h
  split at h
  · cases h
  · obtain ⟨⟨length, l₂⟩, h₂, h⟩ := Option.bind_eq_some_iff.mp h
    obtain ⟨⟨cookie, l₃⟩, h₃, h⟩ := Option.bind_eq_some_iff.mp h
    obtain ⟨⟨id, l₄⟩, h₄, -⟩ := Option.bind_eq_some_iff.mp h
    obtain ⟨v₁, rfl, hv₁, -⟩ := readUInt16_eq_some h₁
    obtain ⟨v₂, rfl, hv₂, -⟩ := readUInt16_eq_some h₂
    obtain ⟨rfl, hv₃⟩ := readBytes_eq_some h₃
    obtain ⟨rfl, hv₄⟩ := readBytes_eq_some h₄
    rw [kStunMagicCookieLength] at hv₃
    rw [kStunTransactionIdLength] at hv₄
    rw [kStunHeaderSize]
    simp only [List.length_append]
    omega

lemma read_of_le (h : kStunHeaderSize ≤ data.length) : read data =
    if headerType data &&& 0x0800 ≠ 0 then none
    else if data.length - kStunHeaderSize ≠ headerLength data then none
    else (readAttributes (data.drop kStunHeaderSize)).bind fun attrs =>
      some { type := headerType data, length := headerLength data
             transactionId := headerTransactionId data, attrs, buffer := data } := by
  have hlen : 20 ≤ data.length := h
  have h₁ : readUInt16 data = some (headerType data, data.drop 2) := readUInt16_of_le (by omega)
  have h₂ : readUInt16 (data.drop 2) = some (headerLength data, data.drop 4) := by
    rw [readUInt16_of_le (by rw [List.length_drop]; omega), List.drop_drop]
    rfl
  have h₃ : readBytes kStunMagicCookieLength (data.drop 4) =
      some ((data.drop 4).take kStunMagicCookieLength, data.drop 8) := by
    rw [kStunMagicCookieLength, readBytes_of_le (by rw [List.length_drop]; omega), List.drop_drop]
  have h₄ : readBytes kStunTransactionIdLength (data.drop 8) =
      some ((data.drop 8).take kStunTransactionIdLength, data.drop kStunHeaderSize) := by
    rw [kStunTransactionIdLength, readBytes_of_le (by rw [List.length_drop]; omega),
      List.drop_drop, kStunHeaderSize]
  rw [StunMessage.read, h₁]
  simp only [bind, Option.bind_some]
  split
  · rfl
  · rw [h₂]
    simp only [Option.bind_some]
    rw [h₃]
    simp only [Option.bind_some]
    rw [h₄]
    simp only [Option.bind_some, List.length_drop]
    rfl

/-- When `read` returns true, and what it leaves in the message. -/
theorem read_eq_some_iff : read data = some msg ↔
    Framed data ∧ headerType data &&& 0x0800 = 0 ∧
      ∃ attrs, readAttributes (data.drop kStunHeaderSize) = some attrs ∧
        msg = { type := headerType data, length := headerLength data
                transactionId := headerTransactionId data, attrs, buffer := data } := by
  constructor
  · intro h
    have hlen := length_of_read h
    rw [read_of_le hlen] at h
    obtain ⟨hbit, h⟩ := Option.ite_none_left_eq_some.mp h
    obtain ⟨hframed, h⟩ := Option.ite_none_left_eq_some.mp h
    obtain ⟨attrs, hattrs, hmsg⟩ := Option.bind_eq_some_iff.mp h
    refine ⟨?_, not_not.mp hbit, attrs, hattrs, (Option.some.inj hmsg).symm⟩
    rw [Framed, ← not_not.mp hframed, Nat.add_sub_cancel' hlen]
  · rintro ⟨hframed, hbit, attrs, hattrs, rfl⟩
    have hlen : kStunHeaderSize ≤ data.length := hframed ▸ Nat.le_add_right _ _
    have hlength : data.length - kStunHeaderSize = headerLength data := by
      rw [hframed, Nat.add_sub_cancel_left]
    rw [read_of_le hlen, if_neg (not_not.mpr hbit), if_neg (not_not.mpr hlength), hattrs,
      Option.bind_some]

/-! ## Well-formed messages -/

/-- A message of the format, with the attributes `T`. -/
structure WellFormed (data : Bytes) (T : List Tlv) : Prop where
  framed : Framed data
  type : headerType data &&& 0xC000 = 0
  tiles : Tiles (data.drop kStunHeaderSize) T
  sync : ∀ t ∈ T, InSync t

/-- `read` returns true exactly for a well-formed message, and then leaves its USERNAME,
MESSAGE-INTEGRITY and PRIORITY attributes. -/
structure ReadExact (data : Bytes) : Prop where
  accepts : (∃ msg, read data = some msg) ↔ ∃ T, WellFormed data T
  attrs : ∀ msg, read data = some msg → ∃ T, Tiles (data.drop kStunHeaderSize) T ∧
    msg.attrs = T.filterMap toAttribute

/-- The condition on a framed message: if its attributes are well-formed, the bit that `read` tests
is as the two most significant bits of the type are, and if some of them are odd, the bit is set. -/
def Discerned (data : Bytes) : Prop :=
  Framed data →
    ((∃ T, Tiles (data.drop kStunHeaderSize) T ∧ ∀ t ∈ T, InSync t) →
      (headerType data &&& 0x0800 = 0 ↔ headerType data &&& 0xC000 = 0)) ∧
    (OddlyRead (data.drop kStunHeaderSize) → headerType data &&& 0x0800 ≠ 0)

/-- On octets that a datagram can carry, `read` is exact precisely under the condition. -/
theorem readExact_iff (hdata : data.length ≤ 65507) : ReadExact data ↔ Discerned data := by
  have hlen : (data.drop kStunHeaderSize).length < 65533 := by
    rw [List.length_drop]
    omega
  constructor
  · intro h hframed
    constructor
    · rintro ⟨T, hT, hsync⟩
      have hread := (readAttributes_eq_some_iff (by omega)).mpr (hT.reads hsync)
      constructor
      · intro hbit
        obtain ⟨T', hT'⟩ := h.accepts.mp
          ⟨_, read_eq_some_iff.mpr ⟨hframed, hbit, _, hread, rfl⟩⟩
        exact hT'.type
      · intro htype
        obtain ⟨msg, hmsg⟩ := h.accepts.mpr ⟨T, hframed, htype, hT, hsync⟩
        exact (read_eq_some_iff.mp hmsg).2.1
    · intro hodd hbit
      obtain ⟨attrs, hreads⟩ := hodd.reads
      have hread := (readAttributes_eq_some_iff (by omega)).mpr hreads
      obtain ⟨T, hT⟩ := h.accepts.mp ⟨_, read_eq_some_iff.mpr ⟨hframed, hbit, _, hread, rfl⟩⟩
      exact hodd.not_tiles hlen ⟨T, hT.tiles, hT.sync⟩
  · intro h
    have hread : ∀ msg, read data = some msg → headerType data &&& 0xC000 = 0 ∧
        ∃ T, Tiles (data.drop kStunHeaderSize) T ∧ (∀ t ∈ T, InSync t) ∧
          msg.attrs = T.filterMap toAttribute := by
      intro msg hmsg
      obtain ⟨hframed, hbit, attrs, hattrs, rfl⟩ := read_eq_some_iff.mp hmsg
      rcases ((readAttributes_eq_some_iff (by omega)).mp hattrs).tiles_or_odd with
        ⟨T, hT, hsync, rfl⟩ | hodd
      · exact ⟨((h hframed).1 ⟨T, hT, hsync⟩).mp hbit, T, hT, hsync, rfl⟩
      · exact absurd hbit ((h hframed).2 hodd)
    constructor
    · constructor
      · rintro ⟨msg, hmsg⟩
        obtain ⟨htype, T, hT, hsync, -⟩ := hread msg hmsg
        exact ⟨T, (read_eq_some_iff.mp hmsg).1, htype, hT, hsync⟩
      · rintro ⟨T, hT⟩
        have hbit := ((h hT.framed).1 ⟨T, hT.tiles, hT.sync⟩).mpr hT.type
        have hattrs := (readAttributes_eq_some_iff (by omega)).mpr (hT.tiles.reads hT.sync)
        exact ⟨_, read_eq_some_iff.mpr ⟨hT.framed, hbit, _, hattrs, rfl⟩⟩
    · intro msg hmsg
      obtain ⟨-, T, hT, -, hattrs⟩ := hread msg hmsg
      exact ⟨T, hT, hattrs⟩

/-- A binding request with these octets behind its header. -/
def bindingRequest (attrs : Bytes) : Bytes :=
  [0, 1] ++ toBE 2 attrs.length ++ [0x21, 0x12, 0xA4, 0x42] ++ List.replicate 12 7 ++ attrs

/-- A USERNAME with its padding, a PRIORITY, a SOFTWARE that the reader skips, and a
MESSAGE-INTEGRITY. -/
def signedAttributes : Bytes :=
  ([0, 6] ++ ([0, 3] ++ ([97, 58, 98] ++ [0]))) ++
    (([0, 0x24] ++ ([0, 4] ++ ([0x6E, 0, 1, 0xFF] ++ []))) ++
      (([0x80, 0x22] ++ ([0, 5] ++ ([120, 114, 116, 99, 49] ++ [0, 0, 0]))) ++
        (([0, 8] ++ ([0, 20] ++ (List.replicate 20 7 ++ []))) ++ [])))

lemma tiles_signedAttributes : Tiles signedAttributes
    [⟨stunAttrUsername, [97, 58, 98]⟩, ⟨stunAttrPriority, [0x6E, 0, 1, 0xFF]⟩,
      ⟨0x8022, [120, 114, 116, 99, 49]⟩, ⟨stunAttrMessageIntegrity, List.replicate 20 7⟩] :=
  .cons ⟨[0, 6], [0, 3], [0], rfl, rfl, by decide, rfl, by decide, by decide⟩ (.cons
    ⟨[0, 0x24], [0, 4], [], rfl, rfl, by decide, rfl, by decide, by decide⟩ (.cons
    ⟨[0x80, 0x22], [0, 5], [0, 0, 0], rfl, rfl, by decide, rfl, by decide, by decide⟩ (.cons
    ⟨[0, 8], [0, 20], [], rfl, rfl, by decide, rfl, by decide, by decide⟩ .nil)))

theorem signedRequest_readExact : ReadExact (bindingRequest signedAttributes) := by
  refine (readExact_iff (by decide)).mpr fun _ => ⟨fun _ => by decide, fun hodd => ?_⟩
  have htiles : Tiles ((bindingRequest signedAttributes).drop kStunHeaderSize) _ :=
    tiles_signedAttributes
  exact absurd ⟨_, htiles, by decide⟩ (hodd.not_tiles (by decide))

/-- A PRIORITY of length zero, whose value is read all the same. -/
theorem priorityWithoutLength_not_readExact :
    ¬ ReadExact (bindingRequest [0, 0x24, 0, 0, 1, 2, 3, 4]) := by
  intro h
  obtain ⟨T, hT⟩ := h.accepts.mp ⟨{
    type := 1, length := 8, transactionId := List.replicate 12 7, attrs := [.uint32 0x24 0x01020304]
    buffer := bindingRequest [0, 0x24, 0, 0, 1, 2, 3, 4] }, by decide +kernel⟩
  have hodd : OddAttribute ([0, 0x24] ++ ([0, 0] ++ [1, 2, 3, 4])) []
      (some (.uint32 stunAttrPriority (ofBE [1, 2, 3, 4]))) :=
    .priority rfl rfl rfl (by decide) rfl
  exact (OddlyRead.here hodd .nil).not_tiles (by decide) ⟨T, hT.tiles, hT.sync⟩

end XrtcServer.Ice
