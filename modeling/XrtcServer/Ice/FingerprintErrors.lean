import XrtcServer.Base.Crc32
import XrtcServer.Ice.StunSigned

/-!
# Errors that the fingerprint notices

The fingerprint of a STUN message is a checksum of everything before it, behind which it stands
itself. The file proves that `validate_fingerprint` refuses what becomes of an accepted datagram
when less than 33 bits on end of it are changed, wherever they are.
-/

namespace XrtcServer.Ice
open XrtcServer.Base XrtcServer.Core.Crc StunMessage

variable {crc32 : Bytes → Nat} {data data' text text' : Bytes} {k v v' : Nat}

/-! ## What is accepted -/

lemma drop_eq_of_getBE {pos n x : Nat} (h : getBE data pos n = .ok x) :
    data.drop pos = toBE n x ++ data.drop (pos + n) := by
  obtain ⟨hle, hx⟩ := getBE_eq_ok h
  have hlen : ((data.drop pos).take n).length = n := by
    rw [List.length_take, List.length_drop]
    omega
  have hback := toBE_ofBE ((data.drop pos).take n)
  rw [hlen, hx] at hback
  rw [hback, ← List.drop_drop, List.take_append_drop]

/-- An accepted datagram ends with a fingerprint of what is before it. -/
lemma eq_of_validateFingerprint (h : validateFingerprint crc32 data = .ok true) :
    ∃ text v, data = text ++ encodeFingerprint v ∧ v < 2 ^ 32 ∧
      v ^^^ stunFingerprintXorValue = crc32 text := by
  unfold validateFingerprint at h
  dsimp only at h
  split at h
  · cases h
  rename_i hsize
  obtain ⟨cookie, -, h⟩ := bind_eq_ok.mp h
  split at h
  · cases h
  obtain ⟨type, htype, h⟩ := bind_eq_ok.mp h
  split at h
  · cases h
  rename_i htypeEq
  obtain ⟨length, hlength, h⟩ := bind_eq_ok.mp h
  split at h
  · cases h
  rename_i hlengthEq
  obtain ⟨v, hv, h⟩ := bind_eq_ok.mp h
  obtain ⟨text, htext, h⟩ := bind_eq_ok.mp h
  rw [not_not] at htypeEq hlengthEq
  subst htypeEq hlengthEq
  simp only [kStunAttributeHeaderSize, stunUInt32Size, kStunHeaderSize] at htype hlength hv htext hsize
  refine ⟨text, v, ?_, ?_, by simpa [pure, Except.pure] using h⟩
  · rw [readAt, if_pos (by omega), List.drop_zero, Except.ok.injEq] at htext
    have hend : data.drop (data.length - (4 + 4) + 4 + 4) = [] :=
      List.drop_eq_nil_of_le (by omega)
    rw [encodeFingerprint, ← htext]
    conv_lhs => rw [← List.take_append_drop (data.length - (4 + 4)) data]
    rw [drop_eq_of_getBE htype, drop_eq_of_getBE hlength, Nat.add_assoc _ 2 2,
      drop_eq_of_getBE hv, hend, List.append_nil]
    rfl
  · obtain ⟨hle, rfl⟩ := getBE_eq_ok hv
    calc ofBE ((data.drop (data.length - (4 + 4) + 4)).take 4)
        < 256 ^ ((data.drop (data.length - (4 + 4) + 4)).take 4).length := ofBE_lt _
      _ ≤ 256 ^ 4 := Nat.pow_le_pow_right (by decide) (List.length_take_le _ _)

/-! ## Errors -/

/-- The attribute header stands between the text and its checksum, and is longer than what may be
changed. -/
lemma not_differWithin (hlen : text.length = text'.length) (htext : text ≠ text')
    (hv : v < 2 ^ 32) (hv' : v' < 2 ^ 32) (hne : v ≠ v') :
    ¬ DifferWithin k 32 (wireBits (text ++ encodeFingerprint v))
      (wireBits (text' ++ encodeFingerprint v')) := by
  intro hdiff
  have hsplit : ∀ t n, wireBits (t ++ encodeFingerprint n) = wireBits t ++
      (wireBits (toBE 2 stunAttrFingerprint ++ toBE 2 stunUInt32Size) ++ wireBits (toBE 4 n)) := by
    intro t n
    rw [wireBits_append, encodeFingerprint, ← List.append_assoc, wireBits_append]
  have hfront : (wireBits text).length = (wireBits text').length := by
    rw [length_wireBits, length_wireBits, hlen]
  have hheader : (wireBits (toBE 2 stunAttrFingerprint ++ toBE 2 stunUInt32Size)).length = 32 := by
    rw [length_wireBits, List.length_append, length_toBE, length_toBE]
  have hvalue : wireBits (toBE 4 v) ≠ wireBits (toBE 4 v') := by
    intro heq
    apply hne
    rw [← ofBE_toBE (w := 4) hv, ← ofBE_toBE (w := 4) hv', wireBits_injective heq]
  obtain ⟨i, hi, hidiff⟩ := exists_differ hfront (wireBits_injective.ne htext)
  obtain ⟨j, hj, hjdiff⟩ := exists_differ (by rw [length_wireBits, length_wireBits, length_toBE,
    length_toBE]) hvalue
  rw [hsplit, hsplit] at hdiff
  have hstart := (hdiff.2 i (by
    rwa [List.getElem?_append_left hi, List.getElem?_append_left (hfront ▸ hi)])).1
  have hend := (hdiff.2 ((wireBits text).length + (32 + j)) (by
    rw [List.getElem?_append_right (by omega), List.getElem?_append_right (by omega),
      List.getElem?_append_right (by omega), List.getElem?_append_right (by omega), hheader,
      ← hfront, Nat.add_sub_cancel_left, Nat.add_sub_cancel_left]
    exact hjdiff)).2
  omega

/-- An accepted datagram in which less than 33 bits on end were changed is not accepted. -/
theorem validateFingerprint_of_differWithin
    (h : validateFingerprint (checksumOf computeCrc32) data = .ok true) (hne : data ≠ data')
    (hdiff : DifferWithin k 32 (wireBits data) (wireBits data')) :
    validateFingerprint (checksumOf computeCrc32) data' = .ok false := by
  obtain ⟨ok, hok⟩ := exists_validateFingerprint (checksumOf computeCrc32) data'
  cases ok with
  | false => exact hok
  | true =>
    exfalso
    obtain ⟨text, v, rfl, hv, hsum⟩ := eq_of_validateFingerprint h
    obtain ⟨text', v', rfl, hv', hsum'⟩ := eq_of_validateFingerprint hok
    have hlen : text.length = text'.length := by
      have hbits := hdiff.1
      simp only [length_wireBits, List.length_append, length_encodeFingerprint] at hbits
      omega
    by_cases hvv : v = v'
    · subst hvv
      have htext : text ≠ text' := fun heq => hne (by rw [heq])
      rw [wireBits_append, wireBits_append] at hdiff
      have hfront := hdiff.left (by rw [length_wireBits, length_wireBits, hlen])
      exact computeCrc32_ne htext hfront (UInt32.toNat_inj.mp (hsum.symm.trans hsum'))
    · refine not_differWithin hlen (fun heq => hvv ?_) hv hv' hvv hdiff
      rw [heq, ← hsum'] at hsum
      simpa [Nat.xor_assoc] using congrArg (· ^^^ stunFingerprintXorValue) hsum

/-- A binding response without attributes of its own. -/
def plainResponse : Bytes :=
  writeHeader 0x0101 8 (List.replicate 12 7) ++ [0x80, 0x28, 0, 4, 37, 41, 190, 107]

/-- The length of the message is set to 12. -/
def damagedResponse : Bytes := setLength plainResponse 12

theorem damagedResponse_refused :
    validateFingerprint (checksumOf computeCrc32) damagedResponse = .ok false := by
  have hsplit : ∀ n, setLength plainResponse n =
      plainResponse.take 2 ++ toBE 2 n ++ plainResponse.drop 4 := fun _ => rfl
  have hplain : plainResponse = plainResponse.take 2 ++ toBE 2 8 ++ plainResponse.drop 4 := by
    decide +kernel
  refine @validateFingerprint_of_differWithin plainResponse damagedResponse 16 (by decide +kernel)
    (by decide +kernel) ?_
  rw [hplain, damagedResponse, hsplit]
  exact differWithin_octets (x := toBE 2 8) (y := toBE 2 12) _ rfl (by decide) _

end XrtcServer.Ice
