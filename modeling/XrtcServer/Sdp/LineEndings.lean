import XrtcServer.Sdp.Lines
import XrtcServer.Sdp.Values

/-!
# Texts with one and the other line ending

The same lines are read from a text with line feeds and from one with CR LF, but for the last line
where CR LF stands between the lines and not after them: it has lost its last character.
-/

namespace XrtcServer.Sdp
open XrtcServer.Base XrtcServer.Core

variable {line line' mediaType x : Text} {lines : List Text} {s s' : ParseState}
  {dtlsTransport : Text → Bool} {sdp sdp' : Text}

/-- The lines joined by an ending, which also stands after the last line where `atEnd` says so. -/
def joined (e : LineEnding) (atEnd : Bool) (lines : List Text) : Text :=
  if atEnd then terminated e lines else e.text.intercalate lines

/-! ## Results -/

/-- The end of `set_remote_sdp`. -/
def setRemoteDescription (dtlsTransport : Text → Bool) (d : SessionDescription) :
    Except SdpError SessionDescription := do
  d.contents.forM fun content => setRemoteContent dtlsTransport d content.type.mid
  return d

lemma setRemoteSdp_eq (h : sdpLines sdp ≠ []) :
    setRemoteSdp dtlsTransport sdp =
      (describe (sdpLines sdp)).bind (setRemoteDescription dtlsTransport) := by
  have hfields : tokenize '\n' sdp ≠ [] := by
    rintro hnil
    rw [sdpLines, hnil] at h
    exact h (by split <;> rfl)
  rw [setRemoteSdp, if_neg hfields, describe]
  cases (sdpLines sdp).foldlM parseLine {} <;> rfl

lemma setRemoteSdp_congr (hne : sdpLines sdp ≠ []) (hne' : sdpLines sdp' ≠ [])
    (h : describe (sdpLines sdp) = describe (sdpLines sdp')) :
    setRemoteSdp dtlsTransport sdp = setRemoteSdp dtlsTransport sdp' := by
  rw [setRemoteSdp_eq hne, setRemoteSdp_eq hne', h]

/-- Without transports there is nothing to set. -/
lemma setRemoteSdp_noTransport (h : sdpLines sdp ≠ []) :
    setRemoteSdp (fun _ => false) sdp = describe (sdpLines sdp) := by
  have hcontent : ∀ d mid, setRemoteContent (fun _ => false) d mid = .ok () := by
    intro d mid
    unfold setRemoteContent
    split
    · rfl
    · split
      · rfl
      · exact if_neg (by simp)
  have hset : ∀ d, setRemoteDescription (fun _ => false) d = .ok d := by
    intro d
    have hall : ∀ contents : List MediaContentDescription,
        (contents.forM fun content => setRemoteContent (fun _ => false) d content.type.mid) =
          .ok () := by
      intro contents
      induction contents with
      | nil => rfl
      | cons content contents ih =>
        rw [List.forM_eq_forM, List.forM_cons, hcontent]
        exact ih
    rw [setRemoteDescription, hall]
    rfl
  rw [setRemoteSdp_eq h]
  cases describe (sdpLines sdp) with
  | error e => rfl
  | ok d => exact hset d

lemma describe_concat (h : lines.foldlM parseLine {} = .ok s) :
    describe (lines ++ [line]) = (parseLine s line).map ParseState.description := by
  rw [describe, foldlM_append_ok h, List.foldlM_cons]
  cases parseLine s line <;> rfl

/-! ## The last line -/

/-- A line after some lines, with the media type that it is read under. -/
def typedLast (lines : List Text) (line : Text) : Text × Text :=
  (typeAfter (typeAfterLines lines) line, line)

/-- The two lines, as the last ones of a text, are cut alike and refused alike, and where they are
neither, the two texts are alike. -/
structure EndsAlike (lines : List Text) (line line' : Text) : Prop where
  cut : LineCut (typedLast lines line) ↔ LineCut (typedLast lines line')
  refused : ¬ LineCut (typedLast lines line') →
    (LineRefused (typedLast lines line) ↔ LineRefused (typedLast lines line'))
  alike : ¬ LineCut (typedLast lines line') → ¬ LineRefused (typedLast lines line') →
    TextsAlike (lines ++ [line]) (lines ++ [line'])

lemma describe_concat_outcome (h : lines.foldlM parseLine {} = .ok s) (line : Text) :
    Outcome SdpError.outOfRange SdpError.rejected (LineCut (typedLast lines line))
      (LineRefused (typedLast lines line))
      (fun d => ∃ t, (lines ++ [line]).foldlM parseLine {} = .ok t ∧ t.description = d)
      (describe (lines ++ [line])) := by
  have hout := parseLine_outcome s line
  rw [mediaType_foldlM h] at hout
  rw [describe_concat h]
  refine hout.map fun t ht _ => ⟨t, ?_, rfl⟩
  rw [foldlM_append_ok h, List.foldlM_cons, ht]
  rfl

/-- Two lines lead to one description at the end of a text. -/
lemma describe_concat_eq_iff (h : lines.foldlM parseLine {} = .ok s) :
    describe (lines ++ [line]) = describe (lines ++ [line']) ↔ EndsAlike lines line line' := by
  have hne : SdpError.outOfRange ≠ .rejected := nofun
  refine (Outcome.eq_iff hne (describe_concat_outcome h line) (describe_concat_outcome h line')
    ?_).trans ⟨fun h => ⟨h.1, h.2.1, h.2.2⟩, fun h => ⟨h.cut, h.refused, h.alike⟩⟩
  rintro _ _ ⟨t, ht, rfl⟩ ⟨t', ht', rfl⟩
  exact description_eq_iff ht ht'

/-- Lines after one that is cut or refused are not read. -/
lemma describe_append_of_faulty (h : ¬ Faultless lines) (more more' : List Text) :
    describe (lines ++ more) = describe (lines ++ more') := by
  rw [describe, describe, List.foldlM_append, List.foldlM_append]
  cases hs : lines.foldlM parseLine {} with
  | error e => rfl
  | ok s => exact absurd (faultless_iff.mpr ⟨s, hs⟩) h

/-! ## Endings -/

lemma joined_concat (e : LineEnding) (lines : List Text) (x : Text) :
    joined e false (lines ++ [x]) = terminated e lines ++ x := by
  rw [joined, if_neg (by decide)]
  induction lines with
  | nil => exact List.intercalate_singleton
  | cons l lines ih =>
    have htext : terminated e (l :: lines) = l ++ e.text ++ terminated e lines :=
      List.flatMap_cons ..
    rw [List.cons_append, List.intercalate_cons_of_ne_nil (by simp), ih, htext,
      List.append_assoc (l ++ e.text)]

lemma filter_properLine (h : ∀ l ∈ lines, ProperLine l) : lines.filter (· ≠ []) = lines :=
  List.filter_eq_self.mpr fun l hl => decide_eq_true (h l hl).1

lemma sdpLines_terminated (e : LineEnding) (h : ∀ l ∈ lines, ProperLine l) :
    sdpLines (terminated e lines) = lines := by
  cases e with
  | lf => rw [sdpLines_terminated_lf fun l hl => (h l hl).isLine _, filter_properLine h]
  | crlf => exact sdpLines_terminated_crlf fun l hl => (h l hl).2.2

lemma sdpLines_joined_lf (h : ∀ l ∈ lines, ProperLine l) (hx : ProperLine x) :
    sdpLines (joined .lf false (lines ++ [x])) = lines ++ [x] := by
  rw [joined_concat, sdpLines_lf (fun l hl => (h l hl).isLine _) hx.2.2]
  exact filter_properLine (List.forall_mem_append.mpr ⟨h, List.forall_mem_singleton.mpr hx⟩)

lemma sdpLines_joined_crlf (hne : lines ≠ []) (h : ∀ l ∈ lines, ProperLine l) (hx : ProperLine x) :
    sdpLines (joined .crlf false (lines ++ [x])) = lines ++ [x.dropLast] := by
  rw [joined_concat, sdpLines_crlf hne (fun l hl => (h l hl).2.2) hx.2.2,
    filter_properLine (List.forall_mem_singleton.mpr hx)]
  rfl

/-- The text of the lines leads to the result that the text with line feeds leads to. -/
def SameResult (e : LineEnding) (atEnd : Bool) (lines : List Text) : Prop :=
  ∀ dtlsTransport, setRemoteSdp dtlsTransport (joined e atEnd lines) =
    setRemoteSdp dtlsTransport (terminated .lf lines)

/-- The text has one line, or a line before the last one is cut or refused, or the last line ends the
text alike with and without its last character. -/
def LastCharUnseen (lines : List Text) : Prop :=
  ∀ pre x, lines = pre ++ [x] → pre ≠ [] → Faultless pre → EndsAlike pre x.dropLast x

lemma sameResult_of_sdpLines {e : LineEnding} {atEnd : Bool} (hne : lines ≠ [])
    (h : ∀ l ∈ lines, ProperLine l) (hjoined : sdpLines (joined e atEnd lines) = lines) :
    SameResult e atEnd lines := by
  have hlf := sdpLines_terminated .lf h
  intro dtlsTransport
  refine setRemoteSdp_congr (by rwa [hjoined]) (by rwa [hlf]) ?_
  rw [hjoined, hlf]

/-- A line that is alone keeps its last character. -/
lemma sameResult_singleton (e : LineEnding) (atEnd : Bool) (hx : ProperLine x) :
    SameResult e atEnd [x] := by
  have h : ∀ l ∈ [x], ProperLine l := List.forall_mem_singleton.mpr hx
  refine sameResult_of_sdpLines (List.cons_ne_nil x []) h ?_
  cases atEnd with
  | true => exact sdpLines_terminated e h
  | false =>
    have hlf := @sdpLines_joined_lf x [] (by simp) hx
    rw [joined_concat] at hlf
    exact (congrArg sdpLines (joined_concat e [] x)).trans hlf

lemma sameResult_joined_crlf (hne : lines ≠ []) (h : ∀ l ∈ lines, ProperLine l)
    (hx : ProperLine x) : SameResult .crlf false (lines ++ [x]) ↔
      describe (lines ++ [x.dropLast]) = describe (lines ++ [x]) := by
  have hlf := sdpLines_terminated .lf
    (List.forall_mem_append.mpr ⟨h, List.forall_mem_singleton.mpr hx⟩)
  have hcrlf := sdpLines_joined_crlf hne h hx
  constructor
  · intro hsame
    have heq := hsame fun _ => false
    rwa [setRemoteSdp_noTransport (by rw [hcrlf]; simp),
      setRemoteSdp_noTransport (by rw [hlf]; simp), hcrlf, hlf] at heq
  · intro hdescribe dtlsTransport
    refine setRemoteSdp_congr (by rw [hcrlf]; simp) (by rw [hlf]; simp) ?_
    rw [hcrlf, hlf, hdescribe]

/-- The lines lead to one result with both endings, with or without one after the last line, but
where CR LF stands between the lines and not after them and the character shows that the last line
then loses. -/
theorem joined_result_iff (e : LineEnding) (atEnd : Bool) {lines : List Text}
    (h : ∀ l ∈ lines, ProperLine l) :
    SameResult e atEnd lines ↔ e = .lf ∨ atEnd = true ∨ LastCharUnseen lines := by
  rcases List.eq_nil_or_concat lines with rfl | ⟨pre, x, rfl⟩
  · refine iff_of_true (fun dtlsTransport => by cases e <;> cases atEnd <;> rfl) ?_
    exact .inr (.inr fun pre x heq => absurd heq.symm (by simp))
  rw [List.concat_eq_append] at h ⊢
  obtain ⟨hpre, hx⟩ := List.forall_mem_append.mp h
  rw [List.forall_mem_singleton] at hx
  cases atEnd with
  | true =>
    exact iff_of_true (sameResult_of_sdpLines (by simp) h (sdpLines_terminated e h)) (.inr (.inl rfl))
  | false =>
    cases e with
    | lf =>
      exact iff_of_true (sameResult_of_sdpLines (by simp) h (sdpLines_joined_lf hpre hx)) (.inl rfl)
    | crlf =>
      have hunseen : LastCharUnseen (pre ++ [x]) ↔
          (pre ≠ [] → Faultless pre → EndsAlike pre x.dropLast x) := by
        refine ⟨fun h => h pre x rfl, fun h pre' x' heq => ?_⟩
        obtain ⟨hpre, hlast⟩ := List.append_inj' heq rfl
        cases hpre
        cases hlast
        exact h
      simp only [reduceCtorEq, Bool.false_eq_true, false_or, hunseen]
      by_cases hne : pre = []
      · subst hne
        exact iff_of_true (sameResult_singleton .crlf false hx) fun h => absurd rfl h
      · rw [sameResult_joined_crlf hne hpre hx, imp_iff_right hne]
        by_cases hfaultless : Faultless pre
        · obtain ⟨s, hs⟩ := faultless_iff.mp hfaultless
          rw [describe_concat_eq_iff hs, imp_iff_right hfaultless]
        · exact iff_of_true (describe_append_of_faulty hfaultless _ _)
            fun h => absurd h hfaultless

/-- The last line is not read, the first one is refused, or the last one sets a user fragment. -/
theorem audio_lastCharUnseen :
    LastCharUnseen ["m=audio 9 RTP/AVP".toList, "a=rtcp-mux".toList] ∧
      LastCharUnseen ["m=audio".toList, "a=ice-ufrag:ab".toList] ∧
      ¬ LastCharUnseen ["m=audio 9 RTP/AVP".toList, "a=ice-ufrag:ab".toList] := by
  have hunseen : ∀ {first last : Text}, (∀ l ∈ [first, last], ProperLine l) →
      (LastCharUnseen [first, last] ↔ describe [first, last.dropLast] = describe [first, last]) := by
    intro first last h
    have hiff := joined_result_iff .crlf false h
    have hjoined := @sameResult_joined_crlf last [first] (by simp)
      (fun l hl => h l (List.mem_cons.mpr (.inl (List.mem_singleton.mp hl)))) (h last (by simp))
    rw [List.singleton_append, List.singleton_append] at hjoined
    rw [← hjoined, hiff]
    simp
  refine ⟨(hunseen ?_).mpr ?_, (hunseen ?_).mpr ?_, fun h => ?_⟩
  · decide +kernel
  · decide +kernel
  · decide +kernel
  · decide +kernel
  · exact absurd ((hunseen (by decide +kernel)).mp h) (by decide +kernel)

/-- The last line sets a user fragment. -/
theorem joined_loses_character :
    setRemoteSdp (fun _ => false)
        (joined .crlf false ["m=audio 9 RTP/AVP".toList, "a=ice-ufrag:ab".toList]) ≠
      setRemoteSdp (fun _ => false)
        (joined .lf false ["m=audio 9 RTP/AVP".toList, "a=ice-ufrag:ab".toList]) := by
  decide +kernel

end XrtcServer.Sdp
