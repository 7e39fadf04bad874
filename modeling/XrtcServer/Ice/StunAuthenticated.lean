import XrtcServer.Ice.StunReader

/-!
# The values a binding request authenticates

`get_stun_message` checks the octets in front of MESSAGE-INTEGRITY, but takes USERNAME and PRIORITY
from wherever the reader found one. This file says for which accepted requests the two are the same.
-/

namespace XrtcServer.Ice
open XrtcServer.Base XrtcServer.Core StunMessage

variable {crc32 : Bytes → Nat} {hmac : Bytes → Bytes → Bytes} {icePwd data : Bytes}
  {msg : StunMessage} {S T T' : List Tlv} {m t : Tlv} {p : Nat}

/-- The port accepts `data` as a binding request and hands on `msg`. -/
def AcceptsRequest (crc32 : Bytes → Nat) (hmac : Bytes → Bytes → Bytes) (icePwd data : Bytes)
    (msg : StunMessage) : Prop :=
  ∃ r, getStunMessage crc32 hmac icePwd data = .ok r ∧ r.ret = true ∧ r.outMsg = some msg ∧
    msg.type = stunBindingRequest

lemma read_eq_some (h : read data = some msg) :
    msg.buffer = data ∧ readAttributes (data.drop kStunHeaderSize) = some msg.attrs ∧
      data.length = kStunHeaderSize + msg.length ∧ msg.length < 2 ^ 16 := by
  obtain ⟨hframed, -, attrs, hattrs, rfl⟩ := read_eq_some_iff.mp h
  refine ⟨rfl, hattrs, hframed, ?_⟩
  have hlt := ofBE_lt ((data.drop 2).take 2)
  have hle : ((data.drop 2).take 2).length ≤ 2 := List.length_take_le ..
  exact Nat.lt_of_lt_of_le hlt (Nat.pow_le_pow_right (by decide) hle)

lemma exists_locate (h : validateMessageIntegrityOfType hmac data icePwd = .ok true) :
    ∃ p, locateMessageIntegrity data = .ok (some p) := by
  unfold validateMessageIntegrityOfType at h
  split at h
  · cases h
  · obtain ⟨length, -, h⟩ := bind_eq_ok.mp h
    split at h
    · cases h
    · obtain ⟨found, hfound, h⟩ := bind_eq_ok.mp h
      cases found with
      | none => cases h
      | some p => exact ⟨p, hfound⟩

lemma validateMessageIntegrity_spec {msg' : StunMessage}
    (h : msg.validateMessageIntegrity hmac icePwd = .ok msg') :
    msg' = { msg with integrity := msg'.integrity } ∧ (msg'.integrity = .kIntegrityOk →
      validateMessageIntegrityOfType hmac msg.buffer icePwd = .ok true) := by
  unfold StunMessage.validateMessageIntegrity at h
  split at h
  · obtain ⟨b, hb, h⟩ := bind_eq_ok.mp h
    cases b with
    | false =>
      cases h
      exact ⟨rfl, fun hok => by cases hok⟩
    | true =>
      cases h
      exact ⟨rfl, fun _ => hb⟩
  · cases h
    exact ⟨rfl, fun hok => by cases hok⟩

/-- A message that the port hands on was read from the datagram, and a request was checked. -/
lemma outMsg_spec {result : StunResult} (h : getStunMessage crc32 hmac icePwd data = .ok result)
    (hmsg : result.outMsg = some msg) :
    result.ret = true ∧ ∃ msg₀, read data = some msg₀ ∧ msg.attrs = msg₀.attrs ∧
      (msg.type = stunBindingRequest →
        (msg₀.getByteString stunAttrUsername).isSome = true ∧
          validateMessageIntegrityOfType hmac data icePwd = .ok true) := by
  unfold getStunMessage at h
  obtain ⟨fp, -, h⟩ := bind_eq_ok.mp h
  split at h
  · cases h
    cases hmsg
  · split at h
    · cases h
      cases hmsg
    · rename_i msg₀ hread
      split at h
      · split at h
        · cases h
          cases hmsg
        · rename_i hsome
          split at h
          · cases h
            cases hmsg
          · obtain ⟨msg₁, hval, h⟩ := bind_eq_ok.mp h
            split at h
            · cases h
              cases hmsg
            · rename_i hok
              cases h
              cases hmsg
              obtain ⟨hsame, hchecked⟩ := validateMessageIntegrity_spec hval
              have hvalid := hchecked (not_not.mp hok)
              rw [(read_eq_some hread).1] at hvalid
              refine ⟨rfl, msg₀, hread, by rw [hsame], fun _ => ⟨?_, hvalid⟩⟩
              rw [Option.isSome_iff_ne_none]
              simpa using (not_or.mp hsome).1
      · rename_i hother
        cases h
        cases hmsg
        exact ⟨rfl, msg, hread, rfl, fun htype => absurd htype hother⟩

lemma AcceptsRequest.spec (h : AcceptsRequest crc32 hmac icePwd data msg) :
    readAttributes (data.drop kStunHeaderSize) = some msg.attrs ∧
      data.length < kStunHeaderSize + 2 ^ 16 ∧
      (msg.getByteString stunAttrUsername).isSome = true ∧
      ∃ p, locateMessageIntegrity data = .ok (some p) := by
  obtain ⟨result, hresult, -, hmsg, htype⟩ := h
  obtain ⟨-, msg₀, hread, hsame, hrequest⟩ := outMsg_spec hresult hmsg
  obtain ⟨huser, hvalid⟩ := hrequest htype
  obtain ⟨-, hattrs, hlength, hlt⟩ := read_eq_some hread
  refine ⟨hsame ▸ hattrs, by omega, ?_, exists_locate hvalid⟩
  rw [getByteString, hsame]
  exact huser

/-! ## The two values -/

/-- The octets of the USERNAME that is acted on are those the sequence carries, and so for the
PRIORITY. -/
def Carried (msg : StunMessage) (T : List Tlv) : Prop :=
  msg.getByteString stunAttrUsername = firstValue T stunAttrUsername ∧
    (msg.getUInt32 stunAttrPriority).map (toBE 4) = firstValue T stunAttrPriority

lemma firstValue_append (S T : List Tlv) (type : Nat) :
    firstValue (S ++ T) type = (firstValue S type).or (firstValue T type) := by
  simp only [firstValue, List.find?_append]
  cases S.find? (·.type = type) <;> simp

lemma firstValue_cons (t : Tlv) (T : List Tlv) (type : Nat) :
    firstValue (t :: T) type = if t.type = type then some t.value else firstValue T type := by
  by_cases h : t.type = type <;> simp [firstValue, h]

lemma type_toAttribute {a : StunAttribute} (h : toAttribute t = some a) : a.type = t.type := by
  unfold toAttribute at h
  split at h
  · cases h
  · cases h
    rfl
  · cases h
    rfl

lemma findByteString_append (T : List Tlv) (attrs : List StunAttribute) :
    findByteString (T.filterMap toAttribute ++ attrs) stunAttrUsername =
      (firstValue T stunAttrUsername).or (findByteString attrs stunAttrUsername) := by
  induction T with
  | nil => rfl
  | cons t T ih =>
    rw [firstValue_cons]
    by_cases ht : t.type = stunAttrUsername
    · have hattr : toAttribute t = some (.byteString stunAttrUsername t.value) := by
        simp [toAttribute, ht, getAttributeValueType]
      simp [findByteString, hattr, StunAttribute.type, ht]
    · rw [if_neg ht, ← ih]
      cases hattr : toAttribute t with
      | none => simp [hattr]
      | some a =>
        have hne : ¬ a.type = stunAttrUsername := fun ha => ht (type_toAttribute hattr ▸ ha)
        simp [findByteString, hattr, hne]

lemma findUInt32_append (hsync : ∀ t ∈ T, InSync t) (attrs : List StunAttribute) :
    (findUInt32 (T.filterMap toAttribute ++ attrs) stunAttrPriority).map (toBE 4) =
      (firstValue T stunAttrPriority).or ((findUInt32 attrs stunAttrPriority).map (toBE 4)) := by
  induction T with
  | nil => rfl
  | cons t T ih =>
    obtain ⟨hs, hrest⟩ := List.forall_mem_cons.mp hsync
    rw [firstValue_cons]
    by_cases ht : t.type = stunAttrPriority
    · have hattr : toAttribute t = some (.uint32 stunAttrPriority (ofBE t.value)) := by
        rw [toAttribute, getAttributeValueType_uint32.mpr ht, ht]
      have hvalue : toBE 4 (ofBE t.value) = t.value := hs ht ▸ toBE_ofBE t.value
      simp [findUInt32, hattr, StunAttribute.type, ht, hvalue]
    · rw [if_neg ht, ← ih hrest]
      cases hattr : toAttribute t with
      | none => simp [hattr]
      | some a =>
        have hne : ¬ a.type = stunAttrPriority := fun ha => ht (type_toAttribute hattr ▸ ha)
        simp [findUInt32, hattr, hne]

/-- A PRIORITY is read as four octets, and the reading resumes behind them. -/
lemma readAttribute_priority {l x rest : Bytes} {a : Option StunAttribute}
    (h : Encodes l t) (htype : t.type = stunAttrPriority)
    (hread : readAttribute (l ++ x) = some (a, rest)) :
    rest = (l ++ x).drop 8 ∧ ∃ v : Bytes, v.length = 4 ∧
      a = some (.uint32 stunAttrPriority (ofBE v)) := by
  obtain ⟨ty, len, pad, rfl, hty, hty', hlen, hlength, hpad⟩ := h
  unfold StunMessage.readAttribute at hread
  simp only [List.append_assoc, readUInt16_append hty, Option.bind_some, readUInt16_append hlen,
    hty', htype] at hread
  rw [readValue, getAttributeValueType_uint32.mpr rfl] at hread
  obtain ⟨⟨b, r⟩, hb, ha⟩ := Option.map_eq_some_iff.mp hread
  obtain ⟨⟨n, r'⟩, hn, hb⟩ := Option.map_eq_some_iff.mp hb
  obtain ⟨v, hv, hv4, rfl⟩ := readUInt32_eq_some hn
  cases hb
  cases ha
  refine ⟨?_, v, hv4, rfl⟩
  have hheader : (ty ++ (len ++ v)).length = 8 := by
    simp only [List.length_append]
    omega
  change r = _
  rw [show ty ++ (len ++ (t.value ++ pad)) ++ x = (ty ++ (len ++ v)) ++ r by
    simp [hv], ← hheader, List.drop_left]

/-- The condition on an accepted request with the attribute sequence `T` in front of the integrity
attribute at `p`. Either every PRIORITY in front of it has four octets, a USERNAME stands there, and
a PRIORITY does unless the reader finds none from `p` on. Or the reader loses the sequence at a
PRIORITY `m` of another length, but a PRIORITY stands in front of `m`, and a USERNAME stands there
too or the reader, resuming eight octets into `m`, comes upon the one of the sequence. -/
def TakesAuthenticated (data : Bytes) (p : Nat) (T : List Tlv) : Prop :=
  ((∀ t ∈ T, InSync t) ∧ (firstValue T stunAttrUsername).isSome = true ∧
    ((firstValue T stunAttrPriority).isSome = true ∨ ∀ attrs,
      readAttributes (data.drop p) = some attrs → findUInt32 attrs stunAttrPriority = none)) ∨
  ∃ S m T', T = S ++ m :: T' ∧ (∀ t ∈ S, InSync t) ∧ ¬ InSync m ∧
    (firstValue S stunAttrPriority).isSome = true ∧
    ((firstValue S stunAttrUsername).isSome = true ∨ ∃ attrs,
      readAttributes (data.drop (kStunHeaderSize + (S.map Tlv.size).sum + 8)) = some attrs ∧
        findByteString attrs stunAttrUsername = firstValue T' stunAttrUsername)

/-- A sequence is in sync throughout or up to a first attribute. -/
lemma inSync_or_split (T : List Tlv) : (∀ t ∈ T, InSync t) ∨
    ∃ S m T', T = S ++ m :: T' ∧ (∀ t ∈ S, InSync t) ∧ ¬ InSync m := by
  induction T with
  | nil => exact Or.inl (by simp)
  | cons t T ih =>
    by_cases ht : InSync t
    · rcases ih with hall | ⟨S, m, T', rfl, hS, hm⟩
      · exact Or.inl (List.forall_mem_cons.mpr ⟨ht, hall⟩)
      · exact Or.inr ⟨t :: S, m, T', rfl, List.forall_mem_cons.mpr ⟨ht, hS⟩, hm⟩
    · exact Or.inr ⟨[], t, T, rfl, by simp, ht⟩

lemma split_unique {S' : List Tlv} {m' : Tlv} {T'' : List Tlv}
    (h : S ++ m :: T' = S' ++ m' :: T'') (hS : ∀ t ∈ S, InSync t) (hm : ¬ InSync m)
    (hS' : ∀ t ∈ S', InSync t) (hm' : ¬ InSync m') : S = S' ∧ m = m' ∧ T' = T'' := by
  rcases List.append_eq_append_iff.mp h with ⟨d, rfl, hd⟩ | ⟨d, rfl, hd⟩
  · cases d with
    | nil =>
      obtain ⟨rfl, rfl⟩ := List.cons.inj hd
      simp
    | cons x d =>
      obtain ⟨rfl, -⟩ := List.cons.inj hd
      exact absurd (hS' m (by simp)) hm
  · cases d with
    | nil =>
      obtain ⟨rfl, rfl⟩ := List.cons.inj hd
      simp
    | cons x d =>
      obtain ⟨rfl, -⟩ := List.cons.inj hd
      exact absurd (hS m' (by simp)) hm'

lemma carried_of_inSync {attrs : List StunAttribute} (hsync : ∀ t ∈ T, InSync t)
    (hattrs : msg.attrs = T.filterMap toAttribute ++ attrs)
    (hsome : (msg.getByteString stunAttrUsername).isSome = true) :
    Carried msg T ↔ (firstValue T stunAttrUsername).isSome = true ∧
      ((firstValue T stunAttrPriority).isSome = true ∨
        findUInt32 attrs stunAttrPriority = none) := by
  have huser : msg.getByteString stunAttrUsername = _ := hattrs ▸ findByteString_append T attrs
  have hprio : (msg.getUInt32 stunAttrPriority).map (toBE 4) = _ :=
    hattrs ▸ findUInt32_append hsync attrs
  rw [Carried, huser, hprio]
  rw [huser] at hsome
  cases hu : firstValue T stunAttrUsername with
  | none =>
    rw [hu, Option.none_or] at hsome
    simp [Option.isSome_iff_ne_none.mp hsome]
  | some u =>
    cases hp : firstValue T stunAttrPriority with
    | none => simp
    | some v => simp

lemma carried_of_split {attrs : List StunAttribute} {v : Bytes} (hS : ∀ t ∈ S, InSync t)
    (hm : ¬ InSync m) (hv : v.length = 4)
    (hattrs : msg.attrs =
      S.filterMap toAttribute ++ (.uint32 stunAttrPriority (ofBE v) :: attrs)) :
    Carried msg (S ++ m :: T') ↔ (firstValue S stunAttrPriority).isSome = true ∧
      ((firstValue S stunAttrUsername).isSome = true ∨
        findByteString attrs stunAttrUsername = firstValue T' stunAttrUsername) := by
  obtain ⟨htype, hlen⟩ : m.type = stunAttrPriority ∧ m.value.length ≠ 4 := by
    simpa [InSync] using hm
  have huser : msg.getByteString stunAttrUsername = _ := hattrs ▸ findByteString_append S _
  have hprio : (msg.getUInt32 stunAttrPriority).map (toBE 4) = _ :=
    hattrs ▸ findUInt32_append hS _
  have hskip : findByteString (.uint32 stunAttrPriority (ofBE v) :: attrs) stunAttrUsername =
      findByteString attrs stunAttrUsername := by
    simp [findByteString, StunAttribute.type, stunAttrPriority, stunAttrUsername]
  have hfound : findUInt32 (.uint32 stunAttrPriority (ofBE v) :: attrs) stunAttrPriority =
      some (ofBE v) := by
    simp [findUInt32, StunAttribute.type]
  have hne : ¬ stunAttrPriority = stunAttrUsername := by decide
  have hvalue : toBE 4 (ofBE v) = v := hv ▸ toBE_ofBE v
  rw [Carried, huser, hprio, firstValue_append, firstValue_append, firstValue_cons, firstValue_cons,
    htype, if_neg hne, if_pos rfl, hskip, hfound, Option.map_some, hvalue]
  have hvm : v ≠ m.value := fun h => hlen (h ▸ hv)
  cases firstValue S stunAttrPriority with
  | none => simp [hvm]
  | some w => cases firstValue S stunAttrUsername <;> simp

/-- The USERNAME and the PRIORITY that the server acts on are the authenticated ones exactly under
`TakesAuthenticated`. -/
theorem bindingRequest_carried_iff (h : AcceptsRequest crc32 hmac icePwd data msg) :
    ∃ p T, locateMessageIntegrity data = .ok (some p) ∧
      Tiles ((data.take p).drop kStunHeaderSize) T ∧
      (Carried msg T ↔ TakesAuthenticated data p T) := by
  obtain ⟨hread, hsize, hsome, p, hp⟩ := h.spec
  obtain ⟨hle, hpdata, -, T, hT, -⟩ := tiles_of_locateAttribute hp
  refine ⟨p, T, hp, hT, ?_⟩
  obtain ⟨seg, hseg⟩ : ∃ seg, seg = (data.take p).drop kStunHeaderSize := ⟨_, rfl⟩
  rw [← hseg] at hT
  have hsegdata : data.drop kStunHeaderSize = seg ++ data.drop p := by
    rw [hseg, List.drop_take]
    have hpp : data.drop p = (data.drop kStunHeaderSize).drop (p - kStunHeaderSize) := by
      rw [List.drop_drop, Nat.add_sub_cancel' hle]
    rw [hpp, List.take_append_drop]
  have hseglen : seg.length < 2 ^ 16 := by
    rw [hseg, List.length_drop, List.length_take]
    omega
  rw [hsegdata] at hread
  rcases inSync_or_split T with hall | ⟨S, m, T', rfl, hS, hm⟩
  · rw [hT.readAttributes hall hseglen] at hread
    obtain ⟨attrs, hrest, hattrs⟩ := Option.map_eq_some_iff.mp hread
    rw [carried_of_inSync hall hattrs.symm hsome, TakesAuthenticated, hrest]
    constructor
    · rintro ⟨huser, hprio⟩
      exact Or.inl ⟨hall, huser, hprio.imp_right fun hnone _ hsome => by cases hsome; exact hnone⟩
    · rintro (⟨-, huser, hprio⟩ | ⟨S, m, T', rfl, -, hm, -⟩)
      · exact ⟨huser, hprio.imp_right fun hnone => hnone attrs rfl⟩
      · exact absurd (hall m (by simp)) hm
  · obtain ⟨s, r, rfl, hs, hr⟩ := hT.split
    cases hr with
    | @cons l l' _ _ he hr =>
      rw [List.append_assoc, hs.readAttributes hS (by simp at hseglen; omega)] at hread
      obtain ⟨attrs₁, hrest, hattrs⟩ := Option.map_eq_some_iff.mp hread
      have hmtype : m.type = stunAttrPriority := by
        by_contra hne
        exact hm fun hprio => absurd hprio hne
      have hne : l ++ l' ++ data.drop p ≠ [] := by
        have hsize := he.length
        rw [Tlv.size] at hsize
        refine List.ne_nil_of_length_pos ?_
        simp only [List.length_append]
        omega
      obtain ⟨x, rest, attrs, hstep, hattrs₁, rfl⟩ :=
        exists_step_of_readWhole consumes_readAttribute hrest hne
      rw [List.append_assoc] at hstep
      obtain ⟨rfl, v, hv, rfl⟩ := readAttribute_priority he hmtype hstep
      have hresume : (l ++ (l' ++ data.drop p)).drop 8 =
          data.drop (kStunHeaderSize + (S.map Tlv.size).sum + 8) := by
        rw [← hs.length, ← List.drop_drop, ← List.drop_drop, hsegdata, List.append_assoc,
          List.drop_left, List.append_assoc]
      rw [carried_of_split hS hm hv hattrs.symm, TakesAuthenticated]
      rw [hresume] at hattrs₁
      constructor
      · rintro ⟨hprio, huser⟩
        exact Or.inr ⟨S, m, T', rfl, hS, hm, hprio,
          huser.imp_right fun hsame => ⟨attrs, hattrs₁, hsame⟩⟩
      · rintro (⟨hall, -⟩ | ⟨S', m', T'', heq, hS', hm', hprio, huser⟩)
        · exact absurd (hall m (by simp)) hm
        · obtain ⟨rfl, rfl, rfl⟩ := split_unique heq hS hm hS' hm'
          refine ⟨hprio, huser.imp_right ?_⟩
          rintro ⟨attrs', hattrs', hsame⟩
          cases hattrs₁.symm.trans hattrs'
          exact hsame

/-! ## A value from behind the checked octets -/

/-- A binding request of the user `a:b`, with further attributes in front of and behind
MESSAGE-INTEGRITY, for a digest and a checksum that are constantly zero. -/
def requestWith (before after : Bytes) : Bytes :=
  [0, 1] ++ toBE 2 (40 + before.length + after.length) ++ [0x21, 0x12, 0xA4, 0x42] ++
    List.replicate 12 7 ++ [0, 6, 0, 3, 97, 58, 98, 0] ++ before ++
    [0, 8, 0, 20] ++ List.replicate 20 0 ++ after ++ [0x80, 0x28, 0, 4, 0x53, 0x54, 0x55, 0x4e]

/-- The attribute PRIORITY with the value 1. -/
def priorityOne : Bytes := [0, 0x24, 0, 4, 0, 0, 0, 1]

/-- What the reader makes of `requestWith`. -/
def parsedRequest (attrs : List StunAttribute) (buffer : Bytes) : StunMessage where
  type := stunBindingRequest
  length := 48
  transactionId := List.replicate 12 7
  attrs := attrs
  integrity := .kIntegrityOk
  buffer := buffer

lemma accepts_priority_before :
    AcceptsRequest (fun _ => 0) (fun _ _ => List.replicate 20 0) [] (requestWith priorityOne [])
      (parsedRequest [.byteString 6 [97, 58, 98], .uint32 0x24 1,
        .byteString 8 (List.replicate 20 0)] (requestWith priorityOne [])) := by
  refine ⟨{ ret := true, outMsg := some _, outUsername := [98] }, ?_, rfl, rfl, rfl⟩
  decide +kernel

lemma accepts_priority_after :
    AcceptsRequest (fun _ => 0) (fun _ _ => List.replicate 20 0) [] (requestWith [] priorityOne)
      (parsedRequest [.byteString 6 [97, 58, 98], .byteString 8 (List.replicate 20 0),
        .uint32 0x24 1] (requestWith [] priorityOne)) := by
  refine ⟨{ ret := true, outMsg := some _, outUsername := [98] }, ?_, rfl, rfl, rfl⟩
  decide +kernel

/-- The values of the request that carries its PRIORITY in front of MESSAGE-INTEGRITY. -/
theorem priority_before_carried_iff :
    ∃ p T, locateMessageIntegrity (requestWith priorityOne []) = .ok (some p) ∧
      Tiles (((requestWith priorityOne []).take p).drop kStunHeaderSize) T ∧
      (Carried (parsedRequest [.byteString 6 [97, 58, 98], .uint32 0x24 1,
        .byteString 8 (List.replicate 20 0)] (requestWith priorityOne [])) T ↔
        TakesAuthenticated (requestWith priorityOne []) p T) :=
  bindingRequest_carried_iff accepts_priority_before

/-- A PRIORITY behind MESSAGE-INTEGRITY is acted on, and the octets in front of it carry none. -/
theorem priority_after_not_carried :
    ¬ ∀ msg, AcceptsRequest (fun _ => 0) (fun _ _ => List.replicate 20 0) []
        (requestWith [] priorityOne) msg →
      ∀ p T, locateMessageIntegrity (requestWith [] priorityOne) = .ok (some p) →
        Tiles (((requestWith [] priorityOne).take p).drop kStunHeaderSize) T → Carried msg T := by
  intro h
  have hencodes : Encodes [0, 6, 0, 3, 97, 58, 98, 0] ⟨6, [97, 58, 98]⟩ :=
    ⟨[0, 6], [0, 3], [0], rfl, rfl, rfl, rfl, rfl, rfl⟩
  have htiles : Tiles (((requestWith [] priorityOne).take 28).drop kStunHeaderSize)
      [⟨6, [97, 58, 98]⟩] := .cons hencodes .nil
  have hcarried := (h _ accepts_priority_after 28 _ (by decide +kernel) htiles).2
  revert hcarried
  decide

end XrtcServer.Ice
