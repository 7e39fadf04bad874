import XrtcServer.Sdp.LineEndings
import XrtcServer.Sdp.Probes

/-!
# Lines that the parser does not read

The parser finds its patterns anywhere in a line. A section leaves a line unread in every text
precisely where the line has in it none of the patterns that this section looks for, and in one text
the result stays as it is precisely where nothing shows of what the line sets.
-/

namespace XrtcServer.Sdp
open XrtcServer.Base XrtcServer.Core

variable {mediaType mediaType' x : Text} {lines pre post : List Text} {s : ParseState}
  {e : LineEnding} {dtlsTransport : Text → Bool} {d : SessionDescription} {ty : MediaType}
  {inside : Option MediaType}

/-- What the lines that are to be read begin with. -/
def readPrefixes : List Text :=
  ["m=".toList, "a=group:BUNDLE".toList, "a=ice-ufrag".toList, "a=ice-pwd".toList,
    "a=fingerprint".toList, "a=ssrc:".toList, "a=ssrc-group:".toList]

/-- The patterns that a section looks for. -/
def attributePatterns : MediaType → List Text
  | .audio =>
    ["a=ice-ufrag".toList, "a=ice-pwd".toList, "a=fingerprint".toList, "a=ssrc:".toList]
  | .video =>
    ["a=ice-ufrag".toList, "a=ice-pwd".toList, "a=fingerprint".toList, "a=ssrc:".toList,
      "a=ssrc-group:".toList]

/-- A line with nothing in it that the parser looks for in the section. Outside of the sections that
it knows, an m-line of another such section may stand. -/
structure Uninterpreted (inside : Option MediaType) (x : Text) : Prop where
  bundle : bundleNames x = []
  media : MediaLine x → inside = none ∧ begins x = none ∧ ¬ MediaCut x ∧ ¬ MediaRefused x
  attributes : ∀ ty ∈ inside, ∀ pattern ∈ attributePatterns ty, contains x pattern = false

instance : DecidablePred MediaCut := fun _ => inferInstanceAs (Decidable (_ ∧ _ ∧ _))

instance : DecidablePred MediaRefused := fun _ => inferInstanceAs (Decidable (_ ∧ _))

instance (inside : Option MediaType) : DecidablePred (Uninterpreted inside) := fun x =>
  decidable_of_iff (bundleNames x = [] ∧
    (MediaLine x → inside = none ∧ begins x = none ∧ ¬ MediaCut x ∧ ¬ MediaRefused x) ∧
    ∀ ty ∈ inside, ∀ pattern ∈ attributePatterns ty, contains x pattern = false)
    ⟨fun h => ⟨h.1, h.2.1, h.2.2⟩, fun h => ⟨h.bundle, h.media, h.attributes⟩⟩

/-- The text of the lines, if it is accepted, leads to the same result with the line inserted. -/
def Unchanged (dtlsTransport : Text → Bool) (e : LineEnding) (pre : List Text) (x : Text)
    (post : List Text) : Prop :=
  ∀ d, setRemoteSdp dtlsTransport (terminated e (pre ++ post)) = .ok d →
    setRemoteSdp dtlsTransport (terminated e (pre ++ x :: post)) = .ok d

/-- A line that may be inserted into every text that is accepted, at every place inside the section,
and leaves the result as it is. -/
def Ignored (inside : Option MediaType) (x : Text) : Prop :=
  ∀ (e : LineEnding) (pre post : List Text), (∀ l ∈ pre ++ post, e.IsLine l) →
    namedType (typeAfterLines pre) = inside → ∀ dtlsTransport, Unchanged dtlsTransport e pre x post

/-- Nothing shows of the line in the text: with it no line is cut or refused, it lists no bundle and
begins no section, and what is set in each section shows the same. -/
structure InsertionUnseen (pre : List Text) (x : Text) (post : List Text) : Prop where
  faultless : Faultless (pre ++ x :: post)
  bundle : bundleNames x = []
  begins : begins x = none
  values : ∀ ty, ValuesAlike ty (valuesIn ty (pre ++ post)) (valuesIn ty (pre ++ x :: post))

/-! ## Lines of a text -/

lemma Uninterpreted.readSection (h : Uninterpreted (some ty) x) :
    Sdp.readSection ty x = .ok {} := by
  have hattributes := h.attributes ty rfl
  have htransport : ∀ {more : List Text}, (∀ pattern ∈ ["a=ice-ufrag".toList, "a=ice-pwd".toList,
      "a=fingerprint".toList, "a=ssrc:".toList] ++ more, contains x pattern = false) →
      readTransport x = .ok {} ∧ readSsrc x = .ok none := by
    intro more hall
    have hfirst := (List.forall_mem_append.mp hall).1
    simp only [List.forall_mem_cons] at hfirst
    exact ⟨readTransport_eq_nothing.mpr ⟨hfirst.1, hfirst.2.1, hfirst.2.2.1⟩,
      readSsrc_eq_none.mpr hfirst.2.2.2.1⟩
  cases ty with
  | audio =>
    obtain ⟨hnothing, hssrc⟩ := @htransport [] hattributes
    exact readSection_eq_ok.mpr ⟨hnothing, rfl, hssrc⟩
  | video =>
    obtain ⟨hnothing, hssrc⟩ := @htransport ["a=ssrc-group:".toList] hattributes
    refine readSection_eq_ok.mpr ⟨hnothing, readSsrcGroupLine_eq_none.mpr ?_, hssrc⟩
    exact hattributes _ (by simp [attributePatterns])

lemma Uninterpreted.readLine (h : Uninterpreted (namedType mediaType) x) :
    Sdp.readLine mediaType x = .ok {} := by
  have hgroups : bundleGroups x = [] := if_pos h.bundle
  have hnext : nextMediaType mediaType x = .ok (typeAfter mediaType x) := by
    have hout := nextMediaType_outcome mediaType x
    generalize nextMediaType mediaType x = result at hout
    cases hout with
    | fault hcut => exact absurd hcut (h.media hcut.1).2.2.1
    | refusal _ hrefused => exact absurd hrefused (h.media hrefused.1).2.2.2
    | ok _ _ htype => rw [htype]
  rw [Sdp.readLine, hnext, hgroups]
  simp only [bind, Except.bind]
  by_cases hmedia : MediaLine x = true
  · obtain ⟨-, hbegins, -⟩ := h.media hmedia
    have htype : namedType (typeAfter mediaType x) = none := by
      rw [begins, if_pos hmedia, typeAfter, if_pos hmedia] at hbegins
      rw [typeAfter, if_pos hmedia, hbegins]
    rw [htype, ite_self]
    rfl
  · have htype : typeAfter mediaType x = mediaType := if_neg hmedia
    rw [htype, if_neg hmedia]
    cases hty : namedType mediaType with
    | none => rfl
    | some ty =>
      have hread : Sdp.readSection ty x = .ok {} := Uninterpreted.readSection (hty ▸ h)
      dsimp only
      rw [hread]
      simp only [ite_self]
      rfl

lemma Uninterpreted.namedType_typeAfter (h : Uninterpreted (namedType mediaType) x) :
    namedType (typeAfter mediaType x) = namedType mediaType := by
  by_cases hmedia : MediaLine x = true
  · obtain ⟨hnone, hbegins, -⟩ := h.media hmedia
    rw [begins, if_pos hmedia, typeAfter, if_pos hmedia] at hbegins
    rw [typeAfter, if_pos hmedia, hbegins, hnone]
  · rw [typeAfter, if_neg hmedia]

lemma parseLine_of_readLine (h : readLine s.mediaType x = .ok {}) :
    parseLine s x = .ok { s with mediaType := typeAfter s.mediaType x } := by
  rw [parseLine_eq, h, Except.map, LineReading.apply, SectionReading.apply_nothing,
    SectionReading.apply_nothing]
  simp [ParseState.begin]

lemma uninterpreted_nil (inside : Option MediaType) : Uninterpreted inside [] := by
  have hnone : ∀ {c : Char} {pattern : Text}, c ∈ pattern → contains [] pattern = false :=
    fun hc => contains_eq_false hc List.not_mem_nil
  have hm : contains [] "m=".toList = false := hnone (mem_literal (.head _))
  have hmedia : MediaLine [] = false := mediaLine_of_other (Bool.eq_false_iff.mp hm)
  have hbundle : contains [] "m=group:BUNDLE".toList = false := hnone (mem_literal (.head _))
  refine ⟨if_neg (Bool.eq_false_iff.mp hbundle), fun h => ?_, fun ty _ => ?_⟩
  · rw [hmedia] at h
    cases h
  · have hpattern : ∀ pattern ∈ attributePatterns .video, contains [] pattern = false := by
      simp only [attributePatterns, List.forall_mem_cons]
      exact ⟨hnone (mem_literal (.head _)), hnone (mem_literal (.head _)),
        hnone (mem_literal (.head _)), hnone (mem_literal (.head _)),
        hnone (mem_literal (.head _)), List.forall_mem_nil _⟩
    cases ty with
    | audio => exact fun pattern h => hpattern pattern (List.mem_append_left ["a=ssrc-group:".toList] h)
    | video => exact hpattern

lemma parseLine_nil (s : ParseState) : parseLine s [] = .ok s := by
  rw [parseLine_of_readLine (uninterpreted_nil _).readLine]
  rfl

/-- Of the media type only the section matters to the lines that follow. -/
lemma description_foldlM_congr (h : namedType mediaType = namedType mediaType') :
    (lines.foldlM parseLine { s with mediaType }).map ParseState.description =
      (lines.foldlM parseLine { s with mediaType := mediaType' }).map ParseState.description := by
  induction lines generalizing s mediaType mediaType' with
  | nil => rfl
  | cons line lines ih =>
    have hstep : ∀ m, parseLine { s with mediaType := m } line = (readLine m line).map fun r =>
        { r.apply [] s with mediaType := typeAfter m line } := by
      intro m
      rw [parseLine_eq]
      refine congrArg (Except.map · _) (funext fun r => ?_)
      rcases r with ⟨_, - | - | -, _⟩ <;> rfl
    have hnext : namedType (typeAfter mediaType line) = namedType (typeAfter mediaType' line) := by
      by_cases hmedia : MediaLine line = true
      · rw [typeAfter, if_pos hmedia, typeAfter, if_pos hmedia]
      · rw [typeAfter, if_neg hmedia, typeAfter, if_neg hmedia, h]
    rw [List.foldlM_cons, List.foldlM_cons, hstep, hstep, readLine_congr h]
    cases readLine mediaType' line with
    | error e => rfl
    | ok r => exact ih hnext

lemma describe_insert (h : Uninterpreted (namedType (typeAfterLines pre)) x) (post : List Text) :
    describe (pre ++ x :: post) = describe (pre ++ post) := by
  rw [describe, describe, List.foldlM_append, List.foldlM_append]
  cases hs : pre.foldlM parseLine {} with
  | error e => rfl
  | ok s =>
    rw [← mediaType_foldlM hs] at h
    change ((x :: post).foldlM parseLine s).map ParseState.description = _
    rw [foldlM_cons_ok (parseLine_of_readLine h.readLine)]
    exact description_foldlM_congr h.namedType_typeAfter

lemma foldlM_filter_ne_nil (lines : List Text) (s : ParseState) :
    (lines.filter (· ≠ [])).foldlM parseLine s = lines.foldlM parseLine s := by
  induction lines generalizing s with
  | nil => rfl
  | cons l lines ih =>
    rw [List.filter_cons]
    split
    · rw [List.foldlM_cons, List.foldlM_cons]
      exact congrArg (parseLine s l >>= ·) (funext ih)
    · rename_i hl
      have hl : l = [] := by simpa using hl
      rw [hl, ih, foldlM_cons_ok (parseLine_nil s)]

lemma foldlM_sdpLines (h : ∀ l ∈ lines, e.IsLine l) :
    (sdpLines (terminated e lines)).foldlM parseLine {} = lines.foldlM parseLine {} := by
  cases e with
  | lf => rw [sdpLines_terminated_lf h, foldlM_filter_ne_nil]
  | crlf => rw [sdpLines_terminated_crlf fun l hl => (h l hl).1]

lemma describe_sdpLines (h : ∀ l ∈ lines, e.IsLine l) :
    describe (sdpLines (terminated e lines)) = describe lines := by
  rw [describe, foldlM_sdpLines h, describe]

lemma sdpLines_ne_nil (h : ∀ l ∈ lines, e.IsLine l) (hx : x ∈ lines) (hne : x ≠ []) :
    sdpLines (terminated e lines) ≠ [] := by
  cases e with
  | lf =>
    rw [sdpLines_terminated_lf h]
    exact List.ne_nil_of_mem (List.mem_filter.mpr ⟨hx, decide_eq_true hne⟩)
  | crlf =>
    rw [sdpLines_terminated_crlf fun l hl => (h l hl).1]
    exact List.ne_nil_of_mem hx

lemma sdpLines_ne_nil_of_accepted {sdp : Text} (h : setRemoteSdp dtlsTransport sdp = .ok d) :
    sdpLines sdp ≠ [] := by
  intro hnil
  have hfields : tokenize '\n' sdp = [] := by
    rw [sdpLines] at hnil
    split at hnil
    · exact List.map_eq_nil_iff.mp hnil
    · exact hnil
  rw [setRemoteSdp, if_pos hfields] at h
  cases h

lemma isLine_insert (hx : ProperLine x) (h : ∀ l ∈ pre ++ post, e.IsLine l) :
    ∀ l ∈ pre ++ x :: post, e.IsLine l := by
  rw [List.forall_mem_append] at h ⊢
  exact ⟨h.1, List.forall_mem_cons.mpr ⟨hx.isLine e, h.2⟩⟩

/-- A text with the line in it leads to the result of an accepted text where its lines lead to the
description. -/
lemma unchanged_iff_describe (hx : ProperLine x) (hlines : ∀ l ∈ pre ++ post, e.IsLine l)
    (hd : setRemoteSdp dtlsTransport (terminated e (pre ++ post)) = .ok d) :
    Unchanged dtlsTransport e pre x post ↔ describe (pre ++ x :: post) = describe (pre ++ post) := by
  have hinserted := isLine_insert hx hlines
  constructor
  · intro h
    obtain ⟨s, hs, rfl⟩ := setRemoteSdp_spec hd
    obtain ⟨s', hs', hsame⟩ := setRemoteSdp_spec (h _ hd)
    rw [foldlM_sdpLines hlines] at hs
    rw [foldlM_sdpLines hinserted] at hs'
    rw [describe, describe, hs, hs', Except.map, Except.map, hsame]
  · intro h d' hd'
    rw [← hd']
    refine setRemoteSdp_congr (sdpLines_ne_nil hinserted (by simp) hx.1)
      (sdpLines_ne_nil_of_accepted hd) ?_
    rw [describe_sdpLines hinserted, describe_sdpLines hlines, h]

theorem ignored_of_uninterpreted (hx : ProperLine x) (h : Uninterpreted inside x) :
    Ignored inside x := by
  intro e pre post hlines hinside dtlsTransport d hd
  exact (unchanged_iff_describe hx hlines hd).mpr (describe_insert (hinside ▸ h) post) d hd

/-- The result of an accepted text stays as it is precisely where nothing shows of the line. -/
theorem unchanged_iff (hx : ProperLine x) (hlines : ∀ l ∈ pre ++ post, e.IsLine l)
    (hd : setRemoteSdp dtlsTransport (terminated e (pre ++ post)) = .ok d) :
    Unchanged dtlsTransport e pre x post ↔ InsertionUnseen pre x post := by
  obtain ⟨s, hs, rfl⟩ := setRemoteSdp_spec hd
  rw [foldlM_sdpLines hlines] at hs
  rw [unchanged_iff_describe hx hlines hd, describe, describe, hs]
  have htexts : TextsAlike (pre ++ post) (pre ++ x :: post) ↔ bundleNames x = [] ∧ begins x = none ∧
      ∀ ty, ValuesAlike ty (valuesIn ty (pre ++ post)) (valuesIn ty (pre ++ x :: post)) := by
    have hbundles : (pre ++ post).flatMap bundleGroups = (pre ++ x :: post).flatMap bundleGroups ↔
        bundleNames x = [] := by
      rw [List.flatMap_append, List.flatMap_append, List.append_right_inj, List.flatMap_cons,
        List.self_eq_append_left, bundleGroups]
      split <;> simp [*]
    have hbegins : (pre ++ post).filterMap begins = (pre ++ x :: post).filterMap begins ↔
        begins x = none := by
      rw [List.filterMap_append, List.filterMap_append, List.append_right_inj, List.filterMap_cons]
      cases begins x <;> simp
    rw [← hbundles, ← hbegins]
    exact ⟨fun h => ⟨h.1, h.2, h.3⟩, fun h => ⟨h.1, h.2.1, h.2.2⟩⟩
  constructor
  · intro h
    obtain ⟨s', hs', hsame⟩ := map_eq_ok.mp h
    obtain ⟨hbundle, hbegins, hvalues⟩ := htexts.mp ((description_eq_iff hs hs').mp hsame.symm)
    exact ⟨faultless_iff.mpr ⟨s', hs'⟩, hbundle, hbegins, hvalues⟩
  · intro h
    obtain ⟨s', hs'⟩ := faultless_iff.mp h.faultless
    rw [hs']
    have halike := htexts.mpr ⟨h.bundle, h.begins, h.values⟩
    exact congrArg Except.ok ((description_eq_iff hs hs').mpr halike).symm

/-! ## What is seen of a line -/

/-- Without transports, the descriptions of the two texts are the same. -/
lemma Ignored.describe (h : Ignored inside x) (hx : ProperLine x)
    (hinside : namedType (typeAfterLines pre) = inside) (hpre : pre ≠ [])
    (hlines : ∀ l ∈ pre ++ post, ProperLine l) (hd : Sdp.describe (pre ++ post) = .ok d) :
    Sdp.describe (pre ++ x :: post) = .ok d := by
  have hall : ∀ l ∈ pre ++ post, LineEnding.lf.IsLine l := fun l hl => (hlines l hl).isLine _
  have haccepted : setRemoteSdp (fun _ => false) (terminated .lf (pre ++ post)) = .ok d := by
    rw [setRemoteSdp_noTransport, describe_sdpLines hall, hd]
    rw [sdpLines_terminated .lf hlines]
    simp [hpre]
  rw [← hd]
  exact (unchanged_iff_describe hx hall haccepted).mp (h .lf pre post hall hinside _)

/-- A line that is ignored in a section is read there as an empty one. -/
lemma Ignored.readLine (h : Ignored (namedType mediaType) x) (hx : ProperLine x) :
    Sdp.readLine mediaType x = .ok {} := by
  rw [← (uninterpreted_nil (namedType mediaType)).readLine]
  refine readLine_eq_of_description fun lines s hne hlines hs htype => ?_
  have hd : Sdp.describe (lines ++ []) = .ok s.description := by
    rw [List.append_nil, Sdp.describe, hs]
    rfl
  have hsame := h.describe hx (by rw [← mediaType_foldlM hs, htype]) hne
    (by rwa [List.append_nil]) hd
  rw [describe_concat hs] at hsame
  rw [hsame, parseLine_nil]
  rfl

/-- In a section, an m-line of one that the parser knows nothing of hides the lines after it. -/
lemma Ignored.mediaLine (h : Ignored (some ty) x) (hx : ProperLine x) : MediaLine x = false := by
  rw [Bool.eq_false_iff]
  intro hline
  have hread := (namedType_mid ty ▸ h : Ignored (namedType ty.mid) x).readLine hx
  have hnamed := (readLine_spec hread).2.1
  rw [if_pos hline] at hnamed
  have hheader : parseLine {} (mediaHeader ty.mid) =
      .ok { ParseState.begin {} (some ty) with mediaType := ty.mid } :=
    parseLine_mediaHeader {} (some ty)
  generalize hs : { ParseState.begin {} (some ty) with mediaType := ty.mid } = s at hheader
  have htype : s.mediaType = ty.mid := by rw [← hs]
  have hx' := parseLine_of_readLine (htype ▸ hread)
  have hufrag (t : ParseState) (ht : namedType t.mediaType = none) :
      parseLine t "a=ice-ufrag:p".toList = .ok t := by
    rw [parseLine_bind, parseMediaLine_of_other (by decide +kernel) (by decide +kernel),
      Except.bind, ht]
  have hhidden : Sdp.describe [mediaHeader ty.mid, x, "a=ice-ufrag:p".toList] =
      .ok s.description := by
    rw [Sdp.describe, foldlM_cons_ok hheader, foldlM_cons_ok hx',
      foldlM_cons_ok (hufrag _ (by rw [htype]; exact hnamed.symm))]
    rfl
  have hfound : ((Sdp.describe [mediaHeader ty.mid, "a=ice-ufrag:p".toList]).map
      (·.transportInfos.map TransportDescription.iceUfrag)).toOption.any ("p".toList ∈ ·) ∧
      namedType (typeAfterLines [mediaHeader ty.mid]) = some ty ∧
      ∀ l ∈ [mediaHeader ty.mid, "a=ice-ufrag:p".toList], ProperLine l := by
    cases ty <;> decide +kernel
  obtain ⟨hfound, hinside, hproper⟩ := hfound
  cases hd : Sdp.describe [mediaHeader ty.mid, "a=ice-ufrag:p".toList] with
  | error e =>
    rw [hd] at hfound
    cases hfound
  | ok d =>
    have hsame := h.describe hx hinside (List.cons_ne_nil (mediaHeader ty.mid) []) hproper hd
    rw [List.singleton_append, hhidden] at hsame
    rw [hd, ← Except.ok.inj hsame, ← hs] at hfound
    cases ty <;> exact absurd hfound (by decide +kernel)

lemma Ignored.uninterpreted (h : Ignored inside x) (hx : ProperLine x) : Uninterpreted inside x := by
  obtain ⟨mediaType, rfl⟩ : ∃ mediaType, namedType mediaType = inside := by
    cases inside with
    | none => exact ⟨[], rfl⟩
    | some ty => exact ⟨ty.mid, namedType_mid ty⟩
  have hread := h.readLine hx
  obtain ⟨hgroups, hentered, hsection⟩ := readLine_spec hread
  have hmedia : ∀ ty ∈ namedType mediaType, MediaLine x = false := by
    intro ty hty
    exact Ignored.mediaLine (hty ▸ h) hx
  refine ⟨?_, fun hline => ?_, fun ty hty => ?_⟩
  · by_contra hne
    rw [bundleGroups, if_neg hne] at hgroups
    cases hgroups
  · have hnone : namedType mediaType = none := by
      cases hty : namedType mediaType with
      | none => rfl
      | some ty => exact absurd hline (by rw [hmedia ty hty]; decide)
    have hnext : ∃ next, nextMediaType mediaType x = .ok next := by
      rw [Sdp.readLine] at hread
      obtain ⟨next, hnext, -⟩ := bind_eq_ok.mp hread
      exact ⟨next, hnext⟩
    obtain ⟨next, hnext⟩ := hnext
    have hout := nextMediaType_outcome mediaType x
    rw [hnext] at hout
    rw [if_pos hline, typeAfter, if_pos hline] at hentered
    refine ⟨hnone, ?_, ?_⟩
    · rw [begins, if_pos hline, typeAfter, if_pos hline, ← hentered]
    · cases hout with
      | ok hcut hrefused _ => exact ⟨hcut, hrefused⟩
  · have htype : typeAfter mediaType x = mediaType := if_neg (by rw [hmedia ty hty]; decide)
    have hinside := hsection ty
    rw [htype, if_pos (Option.mem_def.mp hty)] at hinside
    obtain ⟨htransport, hgroup, hssrc⟩ := readSection_eq_ok.mp hinside
    obtain ⟨hufrag, hpwd, hfp⟩ := readTransport_eq_nothing.mp htransport
    rw [readSsrc_eq_none] at hssrc
    cases ty with
    | audio =>
      simp only [attributePatterns, List.forall_mem_cons]
      exact ⟨hufrag, hpwd, hfp, hssrc, List.forall_mem_nil _⟩
    | video =>
      simp only [attributePatterns, List.forall_mem_cons]
      exact ⟨hufrag, hpwd, hfp, hssrc, readSsrcGroupLine_eq_none.mp hgroup, List.forall_mem_nil _⟩

/-- A line leaves the result of an accepted text as it is precisely where nothing of it shows there,
and in a section it does so in every text precisely where it has none of the patterns in it that the
section looks for. -/
theorem ignored_iff (hx : ProperLine x) :
    (∀ (e : LineEnding) (pre post : List Text), (∀ l ∈ pre ++ post, e.IsLine l) →
      ∀ dtlsTransport d, setRemoteSdp dtlsTransport (terminated e (pre ++ post)) = .ok d →
        (Unchanged dtlsTransport e pre x post ↔ InsertionUnseen pre x post)) ∧
      ∀ inside, Ignored inside x ↔ Uninterpreted inside x :=
  ⟨fun _ _ _ hlines _ _ hd => unchanged_iff hx hlines hd,
    fun _ => ⟨fun h => h.uninterpreted hx, ignored_of_uninterpreted hx⟩⟩

/-- A line that the audio section looks for nothing in, one that stands in no section, and one whose
user fragment a later line replaces. -/
theorem attribute_unseen :
    Ignored (some .audio) "a=rtcp-mux".toList ∧ Ignored none "x a=ice-pwd:zz".toList ∧
      InsertionUnseen ["m=audio 9 RTP/AVP".toList] "a=ice-ufrag:x".toList
        ["a=ice-ufrag:y".toList] := by
  refine ⟨((ignored_iff ?_).2 _).mpr ?_, ((ignored_iff ?_).2 _).mpr ?_, ?_⟩
  · decide +kernel
  · decide +kernel
  · decide +kernel
  · decide +kernel
  · have hsame : setRemoteSdp (fun _ => false) (terminated .lf (["m=audio 9 RTP/AVP".toList] ++
        "a=ice-ufrag:x".toList :: ["a=ice-ufrag:y".toList])) =
        setRemoteSdp (fun _ => false)
          (terminated .lf (["m=audio 9 RTP/AVP".toList] ++ ["a=ice-ufrag:y".toList])) := by
      decide +kernel
    have haccepted : (setRemoteSdp (fun _ => false)
        (terminated .lf (["m=audio 9 RTP/AVP".toList] ++ ["a=ice-ufrag:y".toList]))).isOk = true := by
      decide +kernel
    cases hd : setRemoteSdp (fun _ => false)
        (terminated .lf (["m=audio 9 RTP/AVP".toList] ++ ["a=ice-ufrag:y".toList])) with
    | error e =>
      rw [hd] at haccepted
      cases haccepted
    | ok d =>
      exact ((ignored_iff (by decide +kernel)).1 .lf _ _ (by decide +kernel) _ d hd).mp
        fun _ hd' => hsame.trans hd'

/-- A parameter whose name ends in m is taken for a section without a port. -/
theorem parameter_not_ignored :
    ProperLine "a=fmtp:96 param=1".toList ∧
      (∀ p ∈ readPrefixes, ¬ p <+: "a=fmtp:96 param=1".toList) ∧
      ¬ Unchanged (fun _ => false) .crlf ["m=audio 9 RTP/AVP".toList] "a=fmtp:96 param=1".toList
        [] := by
  refine ⟨by decide +kernel, by decide +kernel, fun h => ?_⟩
  have haccepted : (setRemoteSdp (fun _ => false)
      (terminated .crlf (["m=audio 9 RTP/AVP".toList] ++ []))).isOk = true := by
    decide +kernel
  have hrejected : setRemoteSdp (fun _ => false)
      (terminated .crlf (["m=audio 9 RTP/AVP".toList] ++ ["a=fmtp:96 param=1".toList])) =
        .error .rejected := by
    decide +kernel
  rw [Unchanged, hrejected] at h
  generalize setRemoteSdp (fun _ => false)
    (terminated .crlf (["m=audio 9 RTP/AVP".toList] ++ [])) = result at h haccepted
  cases result with
  | error e => cases haccepted
  | ok d => cases h d rfl

end XrtcServer.Sdp
