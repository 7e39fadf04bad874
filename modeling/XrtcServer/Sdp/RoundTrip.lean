import XrtcServer.Sdp.Lines

/-!
# Printed descriptions

A description is printed and its text is parsed again. The lines come back as they were printed, but
the parser looks for the BUNDLE group under an m-line, and the printer writes an attribute.
-/

namespace XrtcServer.Sdp
open XrtcServer.Base

variable {l rest : Text} {s s' : ParseState} {lines : List Text} {d r : SessionDescription}
  {content : MediaContentDescription} {dtlsTransport : Text → Bool}

/-- A text that may stand as one field of a line. -/
def FieldText (t : Text) : Prop := t ≠ [] ∧ ∀ c ∈ t, c ∉ [' ', ':', '=', '\r', '\n']

instance : DecidablePred FieldText := fun t =>
  have := List.decidableBAll (fun c => c ∉ [' ', ':', '=', '\r', '\n']) t
  inferInstanceAs (Decidable (_ ∧ _))

/-- A text of base64 characters other than the padding. -/
def Base64Text (t : Text) : Prop := ∀ c ∈ t, c.isAlphanum = true ∨ c = '+' ∨ c = '/'

instance : DecidablePred Base64Text := fun t => List.decidableBAll _ t

/-- A text without a line break and without the sign that ends the type of a line. -/
def PlainText (t : Text) : Prop := '\n' ∉ t ∧ '=' ∉ t

instance : DecidablePred PlainText := fun _ => inferInstanceAs (Decidable (_ ∧ _))

/-- The SHA algorithms with the length of their digests. -/
def shaDigests : List (Text × Nat) :=
  [("sha-1".toList, 20), ("sha-224".toList, 28), ("sha-256".toList, 32), ("sha-384".toList, 48),
    ("sha-512".toList, 64)]

structure StreamParams.WellFormed (ty : MediaType) (track : StreamParams) : Prop where
  id : FieldText track.id
  streamId : FieldText track.streamId
  cname : FieldText track.cname
  ssrcs : track.ssrcs ≠ []
  groups : ∀ group ∈ track.ssrcGroups, ty = .video ∧ FieldText group.semantics ∧
    group.ssrcs ≠ [] ∧ group.ssrcs ⊆ track.ssrcs

/-- A candidate of texts as the port gives them. -/
structure Candidate.WellFormed (c : Candidate) : Prop where
  foundation : PlainText c.foundation
  protocol : PlainText c.protocol
  host : PlainText c.host
  type : PlainText c.type

structure MediaContentDescription.WellFormed (content : MediaContentDescription) : Prop where
  candidates : ∀ c ∈ content.candidates, c.WellFormed
  ids : (content.streams.map StreamParams.id).Nodup
  ssrcs : (content.streams.flatMap StreamParams.ssrcs).Nodup
  streams : ∀ track ∈ content.streams, track.WellFormed content.type

structure TransportDescription.WellFormed (td : TransportDescription) : Prop where
  iceUfrag : Base64Text td.iceUfrag
  icePwd : Base64Text td.icePwd
  fingerprint : ∃ fp, td.identityFingerprint = some fp ∧
    (fp.algorithm, fp.digest.length) ∈ shaDigests

/-- A description that the text is meant to carry: at most one content of a type, each with its
transport, and a BUNDLE group with names. -/
structure SessionDescription.WellFormed (d : SessionDescription) : Prop where
  types : (d.contents.map MediaContentDescription.type).Nodup
  contents : ∀ content ∈ d.contents, content.WellFormed
  transports : ∀ content ∈ d.contents,
    ∃ td, d.getTransportInfo content.type.mid = some td ∧ td.WellFormed
  bundle : ∃ group, d.getGroupByName bundle = [group] ∧ group.contentNames ≠ [] ∧
    ∀ name ∈ group.contentNames, FieldText name

/-- The content names of the BUNDLE groups. -/
def SessionDescription.bundleNames (d : SessionDescription) : List Text :=
  (d.getGroupByName bundle).flatMap ContentGroup.contentNames

/-- What a peer uses of a transport. -/
def SessionDescription.iceAndFingerprint (d : SessionDescription) (mid : Text) :
    Option (Text × Text × Option SSLFingerprint) :=
  (d.getTransportInfo mid).map fun td => (td.iceUfrag, td.icePwd, td.identityFingerprint)

/-- Two descriptions with the same BUNDLE group, transports and streams for the contents of the
first. -/
structure Agrees (d r : SessionDescription) : Prop where
  bundle : r.bundleNames = d.bundleNames
  transports : ∀ content ∈ d.contents,
    r.iceAndFingerprint content.type.mid = d.iceAndFingerprint content.type.mid
  streams : ∀ content ∈ d.contents,
    (r.getContent content.type.mid).map MediaContentDescription.streams = some content.streams

/-- The text of a description is accepted, and the description read agrees with it. -/
def RoundTrips (dtlsTransport : Text → Bool) (d : SessionDescription) : Prop :=
  ∃ r, setRemoteSdp dtlsTransport d.toText = .ok r ∧ Agrees d r

lemma PlainText.append (hl : PlainText l) (hrest : PlainText rest) : PlainText (l ++ rest) :=
  ⟨fun h => (List.mem_append.mp h).elim hl.1 hrest.1,
    fun h => (List.mem_append.mp h).elim hl.2 hrest.2⟩

lemma plainText_flatMap {α : Type} {xs : List α} {f : α → Text} (h : ∀ x ∈ xs, PlainText (f x)) :
    PlainText (xs.flatMap f) := by
  constructor
  · intro hmem
    obtain ⟨x, hx, hc⟩ := List.mem_flatMap.mp hmem
    exact (h x hx).1 hc
  · intro hmem
    obtain ⟨x, hx, hc⟩ := List.mem_flatMap.mp hmem
    exact (h x hx).2 hc

lemma FieldText.plainText (h : FieldText l) : PlainText l :=
  ⟨fun hc => h.2 _ hc (by decide), fun hc => h.2 _ hc (by decide)⟩

lemma Base64Text.plainText (h : Base64Text l) : PlainText l :=
  ⟨fun hc => absurd (h _ hc) (by decide),
    fun hc => absurd (h _ hc) (by decide)⟩

lemma plainText_decimal (n : Nat) : PlainText (decimal n) :=
  ⟨fun hc => absurd (isDigit_of_mem_decimal hc) (by decide),
    fun hc => absurd (isDigit_of_mem_decimal hc) (by decide)⟩

lemma plainText_hexEncode (bytes : Bytes) : PlainText (hexEncode ':' bytes) := by
  have hdigits : ∀ n < 16, hexDigit n ≠ '\n' ∧ hexDigit n ≠ '=' := by decide
  constructor
  · intro hmem
    rcases mem_hexEncode hmem with h | ⟨n, hn, h⟩
    · exact absurd h (by decide)
    · exact (hdigits n hn).1 h.symm
  · intro hmem
    rcases mem_hexEncode hmem with h | ⟨n, hn, h⟩
    · exact absurd h (by decide)
    · exact (hdigits n hn).2 h.symm

lemma plainText_algorithm {n : Nat} (h : (l, n) ∈ shaDigests) : PlainText l := by
  have hall : ∀ sha ∈ shaDigests, PlainText sha.1 := by decide
  exact hall _ h

/-- A line that is no m-line and has nothing in it that the parser takes for one. -/
structure AttributeLine (l : Text) : Prop where
  noBreak : '\n' ∉ l
  noMedia : ¬ "m=".toList <:+: l

instance : DecidablePred AttributeLine := fun l =>
  decidable_of_iff ('\n' ∉ l ∧ ¬ "m=".toList <:+: l) ⟨fun h => ⟨h.1, h.2⟩, fun h => ⟨h.1, h.2⟩⟩

lemma AttributeLine.append (h : AttributeLine l) (hrest : PlainText rest) :
    AttributeLine (l ++ rest) :=
  ⟨fun hc => (List.mem_append.mp hc).elim h.noBreak hrest.1,
    fun hm => h.noMedia (infix_of_infix_append hrest.2 hm)⟩

/-- A line that does not start a BUNDLE group. -/
structure NoBundleLine (l : Text) : Prop where
  noBreak : '\n' ∉ l
  noBundle : contains l "m=group:BUNDLE".toList = false

lemma AttributeLine.noBundleLine (h : AttributeLine l) : NoBundleLine l := by
  refine ⟨h.noBreak, ?_⟩
  rw [Bool.eq_false_iff, ne_eq, contains_iff]
  exact fun hinfix => h.noMedia (List.IsInfix.trans ⟨[], "group:BUNDLE".toList, rfl⟩ hinfix)

section lines

lemma attributeLine_buildCandidate (h : ∀ c ∈ content.candidates, c.WellFormed)
    (hl : l ∈ buildCandidate content) : AttributeLine l := by
  obtain ⟨c, hc, rfl⟩ := List.mem_map.mp hl
  have hspace : PlainText " ".toList := of_literal rfl
  have htyp : PlainText " typ ".toList := of_literal rfl
  have hhead : AttributeLine ("a=candidate:".toList ++ c.foundation) :=
    AttributeLine.append (of_literal rfl) (h c hc).foundation
  have hcomponent := (hhead.append hspace).append (plainText_decimal c.component)
  have hprotocol := (hcomponent.append hspace).append (h c hc).protocol
  have hpriority := (hprotocol.append hspace).append (plainText_decimal c.priority.toNat)
  have hhost := (hpriority.append hspace).append (h c hc).host
  have hport := (hhost.append hspace).append (plainText_decimal c.port)
  exact (hport.append htyp).append (h c hc).type

lemma attributeLine_buildTransport {td : TransportDescription} (h : td.WellFormed)
    (hl : l ∈ buildTransport td) : AttributeLine l := by
  obtain ⟨fp, hfp, hdigest⟩ := h.fingerprint
  have hufrag : AttributeLine ("a=ice-ufrag:".toList ++ td.iceUfrag) :=
    AttributeLine.append (of_literal rfl) h.iceUfrag.plainText
  have hpwd : AttributeLine ("a=ice-pwd:".toList ++ td.icePwd) :=
    AttributeLine.append (of_literal rfl) h.icePwd.plainText
  have halgorithm : AttributeLine ("a=fingerprint:".toList ++ fp.algorithm) :=
    AttributeLine.append (of_literal rfl) (plainText_algorithm hdigest)
  have hspace : PlainText " ".toList := of_literal rfl
  have hfingerprint := (halgorithm.append hspace).append (plainText_hexEncode fp.digest)
  have hsetup : AttributeLine ("a=setup:".toList ++ connectionRoleToString td.connectionRole) := by
    refine AttributeLine.append (of_literal rfl) ?_
    cases td.connectionRole <;> exact of_literal rfl
  rw [buildTransport, hfp] at hl
  simp only [List.cons_append, List.nil_append, List.mem_cons, List.not_mem_nil, or_false] at hl
  rcases hl with rfl | rfl | rfl | rfl
  · exact hufrag
  · exact hpwd
  · exact hfingerprint
  · exact hsetup

lemma attributeLine_buildRtpMap (hl : l ∈ buildRtpMap content) : AttributeLine l := by
  have hcodecs : ∀ ty : MediaType,
      ∀ l ∈ buildRtpMap { type := ty, direction := .inactive }, AttributeLine l := by
    intro ty
    cases ty <;> decide +kernel
  exact hcodecs content.type l hl

lemma attributeLine_addSsrcLine (ssrc : UInt32) {attr value : Text} (hattr : PlainText attr)
    (hvalue : PlainText value) : AttributeLine (addSsrcLine ssrc attr value) := by
  have hhead : AttributeLine ("a=ssrc:".toList ++ decimal ssrc.toNat) :=
    AttributeLine.append (of_literal rfl) (plainText_decimal _)
  have hspace : PlainText " ".toList := of_literal rfl
  have hcolon : PlainText ":".toList := of_literal rfl
  exact (((hhead.append hspace).append hattr).append hcolon).append hvalue

lemma attributeLine_buildSsrc (h : content.WellFormed) (hl : l ∈ buildSsrc content) :
    AttributeLine l := by
  obtain ⟨track, htrack, hl⟩ := List.mem_flatMap.mp hl
  have hw := h.streams track htrack
  rcases List.mem_append.mp hl with hl | hl
  · obtain ⟨group, hgroup, rfl⟩ := List.mem_map.mp hl
    have hsemantics := (hw.groups group (List.mem_of_mem_filter hgroup)).2.1
    have hhead : AttributeLine ("a=ssrc-group".toList ++ group.semantics) :=
      AttributeLine.append (of_literal rfl) hsemantics.plainText
    refine hhead.append (plainText_flatMap fun ssrc _ => ?_)
    exact PlainText.append (of_literal rfl) (plainText_decimal _)
  · obtain ⟨ssrc, -, hl⟩ := List.mem_flatMap.mp hl
    have hid := hw.id.plainText
    have hstream := hw.streamId.plainText
    have hspace : PlainText " ".toList := of_literal rfl
    have hmsid := (hstream.append hspace).append hid
    simp only [List.mem_cons, List.not_mem_nil, or_false] at hl
    rcases hl with rfl | rfl | rfl | rfl
    · exact attributeLine_addSsrcLine ssrc (of_literal rfl) hw.cname.plainText
    · exact attributeLine_addSsrcLine ssrc (of_literal rfl) hmsid
    · exact attributeLine_addSsrcLine ssrc (of_literal rfl) hstream
    · exact attributeLine_addSsrcLine ssrc (of_literal rfl) hid

lemma noBundleLine_buildContent (h : d.WellFormed) (hcontent : content ∈ d.contents)
    (hl : l ∈ buildContent d content) : NoBundleLine l := by
  have hw := h.contents content hcontent
  obtain ⟨td, htd, htdw⟩ := h.transports content hcontent
  have hmedia : NoBundleLine ("m=".toList ++ (content.type.mid ++ (" 9 UDP/TLS/RTP/SAVPF".toList ++
      content.type.codecs.flatMap fun codec => " ".toList ++ decimal codec.id))) := by
    cases content.type <;> exact ⟨by decide +kernel, by decide +kernel⟩
  have hmid : AttributeLine ("a=mid:".toList ++ content.type.mid) := by
    refine AttributeLine.append (of_literal rfl) ?_
    cases content.type <;> exact of_literal rfl
  have hdirection : AttributeLine (buildRtpDirection content) := by
    unfold buildRtpDirection
    split <;> exact of_literal rfl
  rw [buildContent, htd] at hl
  simp only [List.cons_append, List.nil_append, List.mem_cons, List.mem_append, List.append_assoc]
    at hl
  rcases hl with rfl | rfl | rfl | hl | hl | rfl | rfl | hl | hl | hl
  · exact hmedia
  · exact AttributeLine.noBundleLine (of_literal rfl)
  · exact AttributeLine.noBundleLine (of_literal rfl)
  · exact (attributeLine_buildCandidate hw.candidates hl).noBundleLine
  · exact (attributeLine_buildTransport htdw hl).noBundleLine
  · exact hmid.noBundleLine
  · exact hdirection.noBundleLine
  · split at hl
    · rw [List.mem_singleton.mp hl]
      exact AttributeLine.noBundleLine (of_literal rfl)
    · cases hl
  · exact (attributeLine_buildRtpMap hl).noBundleLine
  · exact (attributeLine_buildSsrc hw hl).noBundleLine

lemma attributeLine_buildGroup (h : d.WellFormed) (hl : l ∈ buildGroup d) : AttributeLine l := by
  obtain ⟨group, hgroup, -, hnames⟩ := h.bundle
  rw [buildGroup, hgroup] at hl
  rw [List.mem_singleton.mp hl]
  refine AttributeLine.append (of_literal rfl) (plainText_flatMap fun g hg => ?_)
  rw [List.mem_singleton.mp hg]
  exact plainText_flatMap fun name hname =>
    PlainText.append (of_literal rfl) (hnames name hname).plainText

lemma noBundleLine_toLines (h : d.WellFormed) (hl : l ∈ d.toLines) : NoBundleLine l := by
  have hsession : ∀ l ∈ ["v=0".toList, "o=- 0 2 IN IP4 127.0.0.1".toList, "s=-".toList,
      "t=0 0".toList], AttributeLine l := by
    rw [List.forall_mem_cons, List.forall_mem_cons, List.forall_mem_cons, List.forall_mem_singleton]
    exact ⟨of_literal rfl, of_literal rfl, of_literal rfl, of_literal rfl⟩
  rw [SessionDescription.toLines, List.mem_append, List.mem_append, List.mem_append,
    List.mem_singleton] at hl
  rcases hl with ((hl | hl) | rfl) | hl
  · exact (hsession l hl).noBundleLine
  · exact (attributeLine_buildGroup h hl).noBundleLine
  · exact AttributeLine.noBundleLine (of_literal rfl)
  · obtain ⟨content, hcontent, hl⟩ := List.mem_flatMap.mp hl
    exact noBundleLine_buildContent h hcontent hl

end lines

lemma sdpLines_toText (h : ∀ l ∈ d.toLines, '\n' ∉ l) : sdpLines d.toText = d.toLines :=
  sdpLines_terminated_crlf h

lemma contentGroups_parseMediaLine (hl : NoBundleLine l) (h : parseMediaLine s l = .ok s') :
    s'.contentGroups = s.contentGroups := by
  unfold parseMediaLine at h
  obtain ⟨mediaType, -, h⟩ := bind_eq_ok.mp h
  rw [if_neg (by rw [hl.noBundle]; decide)] at h
  split at h
  · split at h
    · cases h
      rfl
    · split at h <;> cases h <;> rfl
  · cases h
    rfl

lemma contentGroups_parseLine (hl : NoBundleLine l) (h : parseLine s l = .ok s') :
    s'.contentGroups = s.contentGroups := by
  unfold parseLine at h
  obtain ⟨t, ht, h⟩ := bind_eq_ok.mp h
  rw [← contentGroups_parseMediaLine hl ht]
  split at h
  · obtain ⟨td, -, h⟩ := bind_eq_ok.mp h
    obtain ⟨infos, -, h⟩ := bind_eq_ok.mp h
    cases h
    rfl
  · split at h
    · obtain ⟨td, -, h⟩ := bind_eq_ok.mp h
      obtain ⟨groups, -, h⟩ := bind_eq_ok.mp h
      obtain ⟨infos, -, h⟩ := bind_eq_ok.mp h
      cases h
      rfl
    · cases h
      rfl

lemma contentGroups_parseLines (hlines : ∀ l ∈ lines, NoBundleLine l)
    (h : lines.foldlM parseLine s = .ok s') : s'.contentGroups = s.contentGroups := by
  induction lines generalizing s with
  | nil =>
    cases h
    rfl
  | cons l lines ih =>
    rw [List.forall_mem_cons] at hlines
    rw [List.foldlM_cons] at h
    obtain ⟨t, ht, h⟩ := bind_eq_ok.mp h
    rw [ih hlines.2 h, contentGroups_parseLine hlines.1 ht]

/-- What is read from a printed description has no groups. -/
theorem contentGroups_of_toText (h : d.WellFormed)
    (hr : setRemoteSdp dtlsTransport d.toText = .ok r) : r.contentGroups = [] := by
  have hlines : ∀ l ∈ d.toLines, NoBundleLine l := fun l hl => noBundleLine_toLines h hl
  obtain ⟨s, hs, rfl⟩ := setRemoteSdp_spec hr
  rw [sdpLines_toText fun l hl => (hlines l hl).noBreak] at hs
  exact contentGroups_parseLines hlines hs

lemma bundleNames_ne_nil (h : d.WellFormed) : d.bundleNames ≠ [] := by
  obtain ⟨group, hgroup, hne, -⟩ := h.bundle
  rw [SessionDescription.bundleNames, hgroup, List.flatMap_singleton]
  exact hne

lemma bundleNames_of_toText (h : d.WellFormed)
    (hr : setRemoteSdp dtlsTransport d.toText = .ok r) : r.bundleNames = [] := by
  rw [SessionDescription.bundleNames, SessionDescription.getGroupByName,
    contentGroups_of_toText h hr, List.filter_nil, List.flatMap_nil]

/-- No description comes back from its text. -/
theorem not_roundTrips (h : d.WellFormed) : ¬ RoundTrips dtlsTransport d := by
  rintro ⟨r, hr, hagrees⟩
  refine bundleNames_ne_nil h ?_
  rw [← hagrees.bundle, bundleNames_of_toText h hr]

/-- A description with an audio track and a video track of two ssrcs. -/
def offerDescription : SessionDescription where
  contents :=
    [{ type := .audio, direction := .recvOnly
       streams := [{ id := ['t'], ssrcs := [1], cname := ['c'], streamId := ['s'] }] },
      { type := .video, direction := .recvOnly
        streams := [{ id := ['v'], ssrcs := [2, 3], cname := ['c'], streamId := ['s']
                      ssrcGroups := [⟨"FID".toList, [2, 3]⟩] }] }]
  contentGroups := [⟨SessionDescription.bundle, [MediaType.audio.mid, MediaType.video.mid]⟩]
  transportInfos := [offerTransport .audio, offerTransport .video]
where
  /-- The transport of a content. -/
  offerTransport (ty : MediaType) : TransportDescription :=
    { mid := ty.mid, iceUfrag := ['u'], icePwd := ['p']
      identityFingerprint := some ⟨"sha-1".toList, List.replicate 20 0⟩ }

lemma wellFormed_offerTransport (ty : MediaType) :
    (offerDescription.offerTransport ty).WellFormed where
  iceUfrag := (by decide : Base64Text ['u'])
  icePwd := (by decide : Base64Text ['p'])
  fingerprint := ⟨_, rfl, by decide⟩

lemma wellFormed_offerDescription : offerDescription.WellFormed where
  types := by decide
  contents := by
    rw [offerDescription, List.forall_mem_cons, List.forall_mem_singleton]
    refine ⟨⟨by simp, by decide, by decide, ?_⟩, ⟨by simp, by decide, by decide, ?_⟩⟩
    · rw [List.forall_mem_singleton]
      exact ⟨by decide, by decide, by decide, by decide, by decide⟩
    · rw [List.forall_mem_singleton]
      exact ⟨by decide, by decide, by decide, by decide, by decide⟩
  transports := by
    rw [offerDescription, List.forall_mem_cons, List.forall_mem_singleton]
    exact ⟨⟨_, by decide, wellFormed_offerTransport .audio⟩,
      ⟨_, by decide, wellFormed_offerTransport .video⟩⟩
  bundle := ⟨_, rfl, by decide, by decide⟩

theorem offer_not_roundTrips : ¬ RoundTrips (fun _ => true) offerDescription :=
  not_roundTrips wellFormed_offerDescription

/-- No group is read from the text of this description. -/
theorem offer_read_without_bundle :
    ¬ (offerDescription.WellFormed → RoundTrips (fun _ => true) offerDescription) := by
  intro h
  obtain ⟨r, hr, hagrees⟩ := h wellFormed_offerDescription
  have hnames := bundleNames_of_toText wellFormed_offerDescription hr
  rw [hagrees.bundle] at hnames
  revert hnames
  decide

end XrtcServer.Sdp
