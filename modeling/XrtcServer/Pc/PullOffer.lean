import XrtcServer.Pc.PeerConnection
import XrtcServer.Pc.RemoteSdp
import XrtcServer.Sdp.TrackLines

/-!
# The offer to a puller

The tracks that a publisher declares in its answer are kept with its stream, and the offer of a pull
stream prints them. The file follows them from the text of the answer to the text of the offer, as the
peer that pulls the stream reads it.
-/

namespace XrtcServer.Pc
open XrtcServer.Base XrtcServer.Core XrtcServer.Sdp XrtcServer.Stream

/-! ## The sections of a printed description -/

/-- A line that starts a section. -/
def startsMedia (line : Text) : Bool := "m=".toList.isPrefixOf line

/-- The lines under the m-line of `mid`, as a peer reads them. -/
def peerSection (mid : Text) (lines : List Text) : List Text :=
  ((lines.dropWhile fun line => !("m=".toList ++ mid ++ " ".toList).isPrefixOf line).drop 1).takeWhile
    fun line => !startsMedia line

def mediaLine (ty : MediaType) : Text :=
  "m=".toList ++ ty.mid ++ " 9 UDP/TLS/RTP/SAVPF".toList ++
    ty.codecs.flatMap fun codec => " ".toList ++ decimal codec.id

/-- What comes before the ssrc lines of a content. -/
def contentLines (d : SessionDescription) (content : MediaContentDescription) : List Text :=
  ["c=IN IP4 0.0.0.0".toList, "a=rtcp:9 IN IP4 0.0.0.0".toList] ++ buildCandidate content ++
  (match d.getTransportInfo content.type.mid with
    | none => []
    | some td => buildTransport td) ++
  ["a=mid:".toList ++ content.type.mid, buildRtpDirection content] ++
  (if content.rtcpMux then ["a=rtcp-mux".toList] else []) ++ buildRtpMap content

variable {l rest : Text} {d : SessionDescription} {content : MediaContentDescription}
  {ty : MediaType} {lines header : List Text}

lemma buildContent_eq (d : SessionDescription) (content : MediaContentDescription) :
    buildContent d content =
      mediaLine content.type :: (contentLines d content ++ buildSsrc content) := by
  rw [buildContent, contentLines, mediaLine]
  cases d.getTransportInfo content.type.mid <;>
    simp only [List.append_assoc, List.cons_append, List.nil_append]

lemma isPrefixOf_mediaLine (ty ty' : MediaType) :
    ("m=".toList ++ ty.mid ++ " ".toList).isPrefixOf (mediaLine ty') = decide (ty' = ty) := by
  cases ty <;> cases ty' <;> decide +kernel

lemma startsMedia_mediaLine (ty : MediaType) : startsMedia (mediaLine ty) = true := by
  cases ty <;> decide +kernel

lemma isPrefixOf_of_startsMedia (h : startsMedia l = false) (mid : Text) :
    ("m=".toList ++ mid ++ " ".toList).isPrefixOf l = false := by
  rw [startsMedia, Bool.eq_false_iff, ne_eq, List.isPrefixOf_iff_prefix] at h
  rw [Bool.eq_false_iff, ne_eq, List.isPrefixOf_iff_prefix, List.append_assoc]
  exact fun hpre => h ((List.prefix_append _ _).trans hpre)

lemma peerSection_append (hheader : ∀ line ∈ header, startsMedia line = false) (mid : Text)
    (lines : List Text) : peerSection mid (header ++ lines) = peerSection mid lines := by
  rw [peerSection, List.dropWhile_append_of_pos]
  · rfl
  · intro line hline
    rw [isPrefixOf_of_startsMedia (hheader line hline)]
    rfl

lemma takeWhile_append_sections {types : List MediaType} {body : MediaType → List Text}
    (hlines : ∀ line ∈ lines, startsMedia line = false) :
    (lines ++ types.flatMap fun ty => mediaLine ty :: body ty).takeWhile
      (fun line => !startsMedia line) = lines := by
  rw [List.takeWhile_append_of_pos fun line hline => by rw [hlines line hline]; rfl]
  cases types with
  | nil => exact List.append_nil _
  | cons ty types =>
    rw [List.flatMap_cons, List.cons_append, List.takeWhile_cons_of_neg, List.append_nil]
    rw [startsMedia_mediaLine]
    decide

/-- A peer finds the lines of a content under its m-line. -/
lemma peerSection_sections {types : List MediaType} {body : MediaType → List Text}
    (hbody : ∀ ty ∈ types, ∀ line ∈ body ty, startsMedia line = false) :
    peerSection ty.mid (types.flatMap fun ty => mediaLine ty :: body ty) =
      if ty ∈ types then body ty else [] := by
  induction types with
  | nil => rfl
  | cons ty' types ih =>
    rw [List.forall_mem_cons] at hbody
    rw [List.flatMap_cons, List.cons_append]
    by_cases hty : ty' = ty
    · subst hty
      rw [peerSection, List.dropWhile_cons_of_neg, if_pos List.mem_cons_self]
      · exact takeWhile_append_sections hbody.1
      · rw [isPrefixOf_mediaLine, decide_eq_true rfl]
        decide
    · have hskip : peerSection ty.mid (mediaLine ty' :: (body ty' ++
          types.flatMap fun ty => mediaLine ty :: body ty)) =
            peerSection ty.mid (body ty' ++ types.flatMap fun ty => mediaLine ty :: body ty) := by
        rw [peerSection, List.dropWhile_cons_of_pos]
        · rfl
        · rw [isPrefixOf_mediaLine, decide_eq_false hty]
          rfl
      rw [hskip, peerSection_append hbody.1, ih hbody.2]
      exact if_congr (by rw [List.mem_cons, or_iff_right (Ne.symm hty)]) rfl rfl

/-! ## The lines before the ssrc lines -/

/-- A line of one attribute that is no ssrc. -/
structure KeyLine (l : Text) : Prop where
  start : l.take 2 = ['a', '=']
  noSign : '=' ∉ l.drop 2
  noBreak : '\n' ∉ l
  length : 7 ≤ l.length
  noSsrc : ¬ ['s', 's', 'r', 'c', ':'] <+: l.drop 2

instance : DecidablePred KeyLine := fun l =>
  decidable_of_iff (l.take 2 = ['a', '='] ∧ '=' ∉ l.drop 2 ∧ '\n' ∉ l ∧ 7 ≤ l.length ∧
    ¬ ['s', 's', 'r', 'c', ':'] <+: l.drop 2)
    ⟨fun h => ⟨h.1, h.2.1, h.2.2.1, h.2.2.2.1, h.2.2.2.2⟩,
      fun h => ⟨h.start, h.noSign, h.noBreak, h.length, h.noSsrc⟩⟩

lemma KeyLine.append (h : KeyLine l) (hrest : PlainText rest) : KeyLine (l ++ rest) := by
  have hlength := h.length
  have hdrop : (l ++ rest).drop 2 = l.drop 2 ++ rest := List.drop_append_of_le_length (by omega)
  constructor
  · rw [List.take_append_of_le_length (by omega), h.start]
  · rw [hdrop]
    exact fun hc => (List.mem_append.mp hc).elim h.noSign hrest.2
  · exact fun hc => (List.mem_append.mp hc).elim h.noBreak hrest.1
  · rw [List.length_append]
    omega
  · rw [hdrop]
    intro hpre
    refine h.noSsrc (List.prefix_of_prefix_length_le hpre (List.prefix_append _ _) ?_)
    rw [List.length_drop]
    change 5 ≤ l.length - 2
    omega

/-- What a peer takes neither for the start of a section nor for an ssrc. -/
structure PassedLine (l : Text) : Prop where
  noBreak : '\n' ∉ l
  noMedia : startsMedia l = false
  noSsrc : contains l "a=ssrc:".toList = false

instance : DecidablePred PassedLine := fun l =>
  decidable_of_iff ('\n' ∉ l ∧ startsMedia l = false ∧ contains l "a=ssrc:".toList = false)
    ⟨fun h => ⟨h.1, h.2.1, h.2.2⟩, fun h => ⟨h.noBreak, h.noMedia, h.noSsrc⟩⟩

lemma KeyLine.passed (h : KeyLine l) : PassedLine l := by
  have hline : l = ['a'] ++ '=' :: l.drop 2 := by
    have hsplit := List.take_append_drop 2 l
    rw [h.start] at hsplit
    exact hsplit.symm
  refine ⟨h.noBreak, ?_, ?_⟩
  · rw [hline]
    rfl
  · rw [Bool.eq_false_iff, ne_eq, contains_iff, String.toList_ofList]
    rintro ⟨u, v, huv⟩
    have hsame : ['a'] ++ '=' :: l.drop 2 = (u ++ ['a']) ++ '=' :: (['s', 's', 'r', 'c', ':'] ++ v) := by
      rw [← hline, ← huv]
      simp
    obtain ⟨-, -, hrest⟩ :=
      (List.append_cons_inj_of_notMem (by decide) h.noSign).mp hsame
    exact h.noSsrc ⟨v, hrest.symm⟩

lemma keyLine_buildCandidate (h : ∀ c ∈ content.candidates, c.WellFormed)
    (hl : l ∈ buildCandidate content) : KeyLine l := by
  obtain ⟨c, hc, rfl⟩ := List.mem_map.mp hl
  have hspace : PlainText " ".toList := of_literal rfl
  have htyp : PlainText " typ ".toList := of_literal rfl
  have hhead : KeyLine ("a=candidate:".toList ++ c.foundation) :=
    KeyLine.append (of_literal rfl) (h c hc).foundation
  have hcomponent := (hhead.append hspace).append (plainText_decimal c.component)
  have hprotocol := (hcomponent.append hspace).append (h c hc).protocol
  have hpriority := (hprotocol.append hspace).append (plainText_decimal c.priority.toNat)
  have hhost := (hpriority.append hspace).append (h c hc).host
  have hport := (hhost.append hspace).append (plainText_decimal c.port)
  exact (hport.append htyp).append (h c hc).type

/-- What is needed of the texts of a transport. -/
structure PlainTransport (td : TransportDescription) : Prop where
  iceUfrag : PlainText td.iceUfrag
  icePwd : PlainText td.icePwd
  algorithm : ∀ fp ∈ td.identityFingerprint, PlainText fp.algorithm

lemma keyLine_buildTransport {td : TransportDescription} (h : PlainTransport td)
    (hl : l ∈ buildTransport td) : KeyLine l := by
  have hufrag : KeyLine ("a=ice-ufrag:".toList ++ td.iceUfrag) :=
    KeyLine.append (of_literal rfl) h.iceUfrag
  have hpwd : KeyLine ("a=ice-pwd:".toList ++ td.icePwd) :=
    KeyLine.append (of_literal rfl) h.icePwd
  have hsetup : KeyLine ("a=setup:".toList ++ connectionRoleToString td.connectionRole) := by
    refine KeyLine.append (of_literal rfl) ?_
    cases td.connectionRole <;> exact of_literal rfl
  unfold buildTransport at hl
  rcases List.mem_append.mp hl with hl | hl
  · rcases List.mem_pair.mp hl with rfl | rfl
    · exact hufrag
    · exact hpwd
  · split at hl
    · cases hl
    · rename_i fp hfp
      have halgorithm : KeyLine ("a=fingerprint:".toList ++ fp.algorithm) :=
        KeyLine.append (of_literal rfl) (h.algorithm fp hfp)
      have hspace : PlainText " ".toList := of_literal rfl
      rcases List.mem_pair.mp hl with rfl | rfl
      · exact (halgorithm.append hspace).append (plainText_hexEncode fp.digest)
      · exact hsetup

lemma passedLine_contentLines (hcandidates : ∀ c ∈ content.candidates, c.WellFormed)
    (htransports : ∀ td ∈ d.transportInfos, PlainTransport td) (hl : l ∈ contentLines d content) :
    PassedLine l := by
  have hclosed : PassedLine "c=IN IP4 0.0.0.0".toList ∧ PassedLine "a=rtcp:9 IN IP4 0.0.0.0".toList ∧
      PassedLine "a=rtcp-mux".toList := by decide +kernel
  have hmid : ∀ ty : MediaType, PassedLine ("a=mid:".toList ++ ty.mid) := by
    intro ty
    cases ty <;> decide +kernel
  have hdirection : PassedLine (buildRtpDirection content) := by
    unfold buildRtpDirection
    split <;> decide +kernel
  have hcodecs : ∀ ty : MediaType,
      ∀ l ∈ buildRtpMap { type := ty, direction := .inactive }, PassedLine l := by
    intro ty
    cases ty <;> decide +kernel
  simp only [contentLines, List.mem_append, List.mem_cons, List.not_mem_nil, or_false] at hl
  rcases hl with ((((( rfl | rfl) | hl) | hl) | (rfl | rfl)) | hl) | hl
  · exact hclosed.1
  · exact hclosed.2.1
  · exact (keyLine_buildCandidate hcandidates hl).passed
  · split at hl
    · cases hl
    · rename_i td htd
      exact (keyLine_buildTransport (htransports td (List.mem_of_find?_eq_some htd)) hl).passed
  · exact hmid content.type
  · exact hdirection
  · split at hl
    · rw [List.mem_singleton.mp hl]
      exact hclosed.2.2
    · cases hl
  · exact hcodecs content.type l hl

/-! ## The text of a description -/

lemma startsMedia_append (h : startsMedia l = false) (hlength : 2 ≤ l.length) (rest : Text) :
    startsMedia (l ++ rest) = false := by
  rw [startsMedia, Bool.eq_false_iff, ne_eq, List.isPrefixOf_iff_prefix] at h ⊢
  refine fun hpre => h (List.prefix_of_prefix_length_le hpre (List.prefix_append _ _) ?_)
  rw [String.toList_ofList]
  exact hlength

lemma passed_buildSsrc (h : ∀ stream ∈ content.streams, stream.Readable ∧
    ∀ group ∈ stream.ssrcGroups, group.Readable) (hl : l ∈ buildSsrc content) :
    '\n' ∉ l ∧ startsMedia l = false := by
  have hdecimal : ∀ n, '\n' ∉ decimal n := fun n hc =>
    absurd (isDigit_of_mem_decimal hc) (by decide)
  have hssrc : ∀ ssrc attr value, '\n' ∉ attr → '\n' ∉ value →
      '\n' ∉ addSsrcLine ssrc attr value ∧ startsMedia (addSsrcLine ssrc attr value) = false := by
    intro ssrc attr value hattr hvalue
    refine ⟨notMem_addSsrcLine (notMem_literal (by decide)) (by decide) hattr hvalue, ?_⟩
    rw [addSsrcLine_eq]
    exact startsMedia_append (by decide +kernel) (by decide) _
  rw [buildSsrc_eq] at hl
  obtain ⟨stream, hstream, hl⟩ := List.mem_flatMap.mp hl
  obtain ⟨hreadable, hgroups⟩ := h stream hstream
  rcases List.mem_append.mp hl with hl | hl
  · obtain ⟨group, hgroup, rfl⟩ := List.mem_map.mp hl
    have hsemantics := (hgroups group (List.mem_of_mem_filter hgroup)).2
    unfold groupLine
    rw [List.append_assoc]
    refine ⟨fun hc => ?_, startsMedia_append (by decide +kernel) (by decide) _⟩
    rcases List.mem_append.mp hc with hc | hc
    · exact notMem_literal (by decide) hc
    rcases List.mem_append.mp hc with hc | hc
    · exact hsemantics hc
    · obtain ⟨ssrc, -, hc⟩ := List.mem_flatMap.mp hc
      rcases List.mem_append.mp hc with hc | hc
      · exact notMem_literal (by decide) hc
      · exact hdecimal _ hc
  · obtain ⟨ssrc, -, hl⟩ := List.mem_flatMap.mp hl
    have hmsid : '\n' ∉ stream.streamId ++ " ".toList ++ stream.id := by
      intro hc
      rcases List.mem_append.mp hc with hc | hc
      · rcases List.mem_append.mp hc with hc | hc
        · exact hreadable.streamId.1.2 hc
        · exact notMem_literal (by decide) hc
      · exact hreadable.id.2 hc
    simp only [ssrcLines, List.mem_cons, List.not_mem_nil, or_false] at hl
    rcases hl with rfl | rfl | rfl | rfl
    · exact hssrc _ _ _ (notMem_literal (by decide)) hreadable.cname.2
    · exact hssrc _ _ _ (notMem_literal (by decide)) hmsid
    · exact hssrc _ _ _ (notMem_literal (by decide)) hreadable.streamId.1.2
    · exact hssrc _ _ _ (notMem_literal (by decide)) hreadable.id.2

/-- A description whose text a peer can read. -/
structure Printable (d : SessionDescription) : Prop where
  types : (d.contents.map MediaContentDescription.type).Nodup
  candidates : ∀ content ∈ d.contents, ∀ c ∈ content.candidates, c.WellFormed
  streams : ∀ content ∈ d.contents, ∀ stream ∈ content.streams,
    stream.Readable ∧ ∀ group ∈ stream.ssrcGroups, group.Readable
  transports : ∀ td ∈ d.transportInfos, PlainTransport td
  names : ∀ group ∈ d.contentGroups, ∀ name ∈ group.contentNames, PlainText name

/-- The lines before the first m-line. -/
def headerLines (d : SessionDescription) : List Text :=
  ["v=0".toList, "o=- 0 2 IN IP4 127.0.0.1".toList, "s=-".toList, "t=0 0".toList] ++
    buildGroup d ++ ["a=msid-semantic: WMS".toList]

/-- The lines under the m-line of a content. -/
def bodyLines (d : SessionDescription) (ty : MediaType) : List Text :=
  match d.getContent ty.mid with
  | none => []
  | some content => contentLines d content ++ buildSsrc content

lemma getContent_of_mem (htypes : (d.contents.map MediaContentDescription.type).Nodup)
    (hcontent : content ∈ d.contents) : d.getContent content.type.mid = some content := by
  rw [SessionDescription.getContent]
  cases hfind : d.contents.find? (·.type.mid = content.type.mid) with
  | none =>
    have hne := List.find?_eq_none.mp hfind content hcontent
    simp at hne
  | some found =>
    have hmid := List.find?_some hfind
    have htype : found.type = content.type := MediaType.mid_inj.mp (by simpa using hmid)
    exact congrArg some (List.inj_on_of_nodup_map htypes (List.mem_of_find?_eq_some hfind) hcontent
      htype)

lemma Printable.toLines (h : Printable d) : d.toLines = headerLines d ++
    (d.contents.map MediaContentDescription.type).flatMap fun ty => mediaLine ty :: bodyLines d ty := by
  rw [SessionDescription.toLines, headerLines, List.flatMap_map]
  congr 1
  refine List.flatMap_congr fun content hcontent => ?_
  rw [buildContent_eq, bodyLines, getContent_of_mem h.types hcontent]

lemma Printable.headerLines_spec (h : Printable d) (hl : l ∈ headerLines d) :
    '\n' ∉ l ∧ startsMedia l = false := by
  have hclosed : ∀ l ∈ ["v=0".toList, "o=- 0 2 IN IP4 127.0.0.1".toList, "s=-".toList, "t=0 0".toList],
      '\n' ∉ l ∧ startsMedia l = false := by decide +kernel
  rw [headerLines, List.mem_append, List.mem_append, List.mem_singleton] at hl
  rcases hl with (hl | hl) | rfl
  · exact hclosed l hl
  · unfold buildGroup at hl
    split at hl
    · cases hl
    · rename_i hgroups
      rw [List.mem_singleton.mp hl]
      refine ⟨fun hc => ?_, startsMedia_append (by decide +kernel) (by decide) _⟩
      rcases List.mem_append.mp hc with hc | hc
      · exact notMem_literal (by decide) hc
      obtain ⟨group, hgroup, hc⟩ := List.mem_flatMap.mp hc
      obtain ⟨name, hname, hc⟩ := List.mem_flatMap.mp hc
      rcases List.mem_append.mp hc with hc | hc
      · exact notMem_literal (by decide) hc
      · exact (h.names group (List.mem_of_mem_filter hgroup) name hname).1 hc
  · exact ⟨notMem_literal (by decide), by decide +kernel⟩

lemma mem_contents_of_getContent (h : d.getContent ty.mid = some content) :
    content ∈ d.contents ∧ content.type = ty := by
  have hmid := List.find?_some h
  exact ⟨List.mem_of_find?_eq_some h, MediaType.mid_inj.mp (by simpa using hmid)⟩

lemma Printable.bodyLines_spec (h : Printable d) (hl : l ∈ bodyLines d ty) :
    '\n' ∉ l ∧ startsMedia l = false := by
  unfold bodyLines at hl
  split at hl
  · cases hl
  · rename_i content hcontent
    obtain ⟨hmem, -⟩ := mem_contents_of_getContent hcontent
    rcases List.mem_append.mp hl with hl | hl
    · have hpassed := passedLine_contentLines (h.candidates content hmem) h.transports hl
      exact ⟨hpassed.noBreak, hpassed.noMedia⟩
    · exact passed_buildSsrc (h.streams content hmem) hl

/-- A peer that splits the text of a description finds the lines of each content. -/
lemma Printable.peerSection_toText (h : Printable d) (ty : MediaType) :
    peerSection ty.mid (sdpLines d.toText) = bodyLines d ty := by
  have hmedia : ∀ ty, '\n' ∉ mediaLine ty := by
    intro ty
    cases ty <;> decide +kernel
  have hbreak : ∀ l ∈ d.toLines, '\n' ∉ l := by
    rw [h.toLines]
    intro l hl
    rcases List.mem_append.mp hl with hl | hl
    · exact (h.headerLines_spec hl).1
    · obtain ⟨ty, -, hl⟩ := List.mem_flatMap.mp hl
      rcases List.mem_cons.mp hl with rfl | hl
      · exact hmedia ty
      · exact (h.bodyLines_spec hl).1
  rw [sdpLines_toText hbreak, h.toLines, peerSection_append fun l hl => (h.headerLines_spec hl).2,
    peerSection_sections fun ty _ l hl => (h.bodyLines_spec hl).2]
  split_ifs with hty
  · rfl
  · rw [bodyLines]
    cases hcontent : d.getContent ty.mid with
    | none => rfl
    | some content =>
      obtain ⟨hmem, rfl⟩ := mem_contents_of_getContent hcontent
      exact absurd (List.mem_map_of_mem hmem) hty

/-- What a peer reads of a content is what its ssrc lines say. -/
lemma Printable.readTracks_toText (h : Printable d) (ty : MediaType) :
    readTracks (peerSection ty.mid (sdpLines d.toText)) =
      match d.getContent ty.mid with
      | none => .ok []
      | some content => readTracks (buildSsrc content) := by
  rw [h.peerSection_toText, bodyLines]
  cases hcontent : d.getContent ty.mid with
  | none => rfl
  | some content =>
    obtain ⟨hmem, -⟩ := mem_contents_of_getContent hcontent
    have hskip : (contentLines d content).foldlM parseSsrcInfo [] = .ok [] := by
      refine foldlM_eq_of_forall fun l hl infos => ?_
      have hpassed := passedLine_contentLines (h.candidates content hmem) h.transports hl
      rw [parseSsrcInfo, readSsrcLine, hpassed.noSsrc]
      rfl
    rw [readTracks, List.foldlM_append, hskip]
    rfl

/-! ## The offer of a pull stream -/

/-- The texts that the offer takes from elsewhere are plain. -/
structure Surroundings.Plain (s : Surroundings) : Prop where
  iceUfrag : PlainText s.iceUfrag
  icePwd : PlainText s.icePwd
  algorithm : ∀ fp ∈ s.fingerprint, PlainText fp.algorithm
  gathered : ∀ name candidates, s.gathered name = some candidates → ∀ c ∈ candidates, c.WellFormed

/-- The surroundings of a pull stream: `create_pull_stream` gets the sources from the push stream. -/
def Surroundings.pulling (s : Surroundings) (publisher : AnsweredPeer) : Surroundings :=
  { s with
    audioSource := (publisher.getSource MediaType.audio.mid).getD []
    videoSource := (publisher.getSource MediaType.video.mid).getD [] }

/-- The offer that `create_pull_stream` returns. -/
def pullOffer (s : Surroundings) (p : Stream.Ptr) (certificate : Nat) (audio video : Bool)
    (publisher : AnsweredPeer) : Text :=
  ((PeerConnection.init p (some certificate)).createOffer (s.pulling publisher)
    (offerOptions .kPull audio video)).1

/-- The media that a pull stream asks for. -/
def pulled (audio video : Bool) : MediaType → Bool
  | .audio => audio
  | .video => video

variable {s : Surroundings} {certificate : Option Nat} {names : List Text}

def Surroundings.source (s : Surroundings) : MediaType → List StreamParams
  | .audio => s.audioSource
  | .video => s.videoSource

/-- What the candidates do not change. -/
structure SameTracks (d d' : SessionDescription) : Prop where
  contents : d'.contents.map (fun content => (content.type, content.streams)) =
    d.contents.map fun content => (content.type, content.streams)
  groups : d'.contentGroups = d.contentGroups
  transports : d'.transportInfos = d.transportInfos

lemma map_addCandidates (name : Text) (candidates : List Candidate)
    (contents : List MediaContentDescription) :
    (addCandidates name candidates contents).map (fun content => (content.type, content.streams)) =
      contents.map fun content => (content.type, content.streams) := by
  induction contents with
  | nil => rfl
  | cons content contents ih =>
    rw [addCandidates]
    split
    · rfl
    · rw [List.map_cons, ih, List.map_cons]

lemma candidates_addCandidates {P : Candidate → Prop} {name : Text} {candidates : List Candidate}
    {contents : List MediaContentDescription} (hnew : ∀ c ∈ candidates, P c)
    (hold : ∀ content ∈ contents, ∀ c ∈ content.candidates, P c) :
    ∀ content ∈ addCandidates name candidates contents, ∀ c ∈ content.candidates, P c := by
  induction contents with
  | nil => exact hold
  | cons content contents ih =>
    rw [List.forall_mem_cons] at hold
    rw [addCandidates]
    split
    · exact List.forall_mem_cons.mpr ⟨hnew, hold.2⟩
    · exact List.forall_mem_cons.mpr ⟨hold.1, ih hold.2⟩

lemma gatheringCandidate_spec (hs : s.Plain)
    (hd : ∀ content ∈ d.contents, ∀ c ∈ content.candidates, c.WellFormed) :
    SameTracks d (gatheringCandidate s names d) ∧
      ∀ content ∈ (gatheringCandidate s names d).contents, ∀ c ∈ content.candidates,
        c.WellFormed := by
  induction names generalizing d with
  | nil => exact ⟨⟨rfl, rfl, rfl⟩, hd⟩
  | cons name names ih =>
    rw [gatheringCandidate, List.foldl_cons]
    cases hgathered : s.gathered name with
    | none => exact ih hd
    | some candidates =>
      obtain ⟨hsame, hcandidates⟩ := ih (d := { d with
        contents := addCandidates name candidates d.contents })
          (candidates_addCandidates (hs.gathered name candidates hgathered) hd)
      exact ⟨⟨hsame.contents.trans (map_addCandidates ..), hsame.groups, hsame.transports⟩,
        hcandidates⟩

lemma streamsOf_eq (d : SessionDescription) (ty : MediaType) :
    d.streamsOf ty = (((d.contents.map fun content => (content.type, content.streams)).find?
      (·.1.mid = ty.mid)).map Prod.snd).getD [] := by
  rw [SessionDescription.streamsOf, SessionDescription.getContent, List.find?_map]
  change _ = (((d.contents.find? (·.type.mid = ty.mid)).map _).map Prod.snd).getD []
  cases d.contents.find? (·.type.mid = ty.mid) <;> rfl

lemma SameTracks.streamsOf {d' : SessionDescription} (h : SameTracks d d') (ty : MediaType) :
    d'.streamsOf ty = d.streamsOf ty := by
  rw [streamsOf_eq, h.contents, ← streamsOf_eq]

/-- A peer reads the tracks that the streams of a content have, unless there are none. -/
lemma Printable.readTracks_of_copies (h : Printable d) {tracks : List StreamParams} {k : Nat}
    (hproper : ProperTracks tracks) (hstreams : (d.streamsOf ty).map StreamParams.ungrouped =
      (List.replicate k tracks).flatten) :
    readTracks (peerSection ty.mid (sdpLines d.toText)) = .ok (if k = 0 then [] else tracks) := by
  rw [h.readTracks_toText]
  unfold SessionDescription.streamsOf at hstreams
  cases k with
  | zero =>
    rw [List.replicate_zero, List.flatten_nil, List.map_eq_nil_iff] at hstreams
    split at hstreams
    · rename_i content hcontent
      rw [hcontent]
      dsimp only
      rw [buildSsrc_eq, hstreams]
      rfl
    · rename_i hcontent
      rw [hcontent]
      rfl
  | succ k =>
    rw [if_neg (Nat.succ_ne_zero k)]
    split at hstreams
    · rename_i content hcontent
      obtain ⟨hmem, -⟩ := mem_contents_of_getContent hcontent
      rw [hcontent]
      exact hproper.readTracks_buildSsrc k hstreams fun stream hstream group hgroup =>
        ((h.streams content hmem stream hstream).2 group hgroup).1
    · rename_i hcontent
      rw [hcontent]
      rw [List.replicate_succ, List.flatten_cons, List.map_nil] at hstreams
      rw [(List.append_eq_nil_iff.mp hstreams.symm).1]

lemma offerBundle_spec (d : SessionDescription) :
    (offerBundle d).contents = d.contents ∧ (offerBundle d).transportInfos = d.transportInfos ∧
      (d.contentGroups = [] → ∀ group ∈ (offerBundle d).contentGroups, ∀ name ∈ group.contentNames,
        ∃ ty : MediaType, name = ty.mid) := by
  have hnames : ∀ (contents : List MediaContentDescription) (g : ContentGroup),
      (∀ name ∈ g.contentNames, ∃ ty : MediaType, name = ty.mid) →
      ∀ name ∈ (contents.foldl (fun g content => g.addContentName content.type.mid) g).contentNames,
        ∃ ty : MediaType, name = ty.mid := by
    intro contents
    induction contents with
    | nil => exact fun _ h => h
    | cons content contents ih =>
      intro g h
      refine ih _ ?_
      dsimp only
      unfold ContentGroup.addContentName
      split
      · exact h
      · exact List.forall_mem_append.mpr ⟨h, List.forall_mem_singleton.mpr ⟨content.type, rfl⟩⟩
  rw [offerBundle]
  split
  · refine ⟨rfl, rfl, fun hnil group hgroup => ?_⟩
    rw [hnil] at hgroup
    cases hgroup
  · refine ⟨rfl, rfl, fun hnil group hgroup => ?_⟩
    rw [hnil, List.nil_append, List.mem_singleton] at hgroup
    rw [hgroup]
    exact hnames _ _ fun _ h => absurd h List.not_mem_nil

lemma offerContents (s : Surroundings) (certificate : Option Nat) (audio video : Bool) :
    (offerDescription s (offerOptions .kPull audio video) certificate).contents =
      (if audio then [{ type := .audio, direction := .sendOnly, streams := s.audioSource }] else []) ++
        if video then [{ type := .video, direction := .sendOnly, streams := s.videoSource }]
        else [] := by
  unfold offerDescription
  rw [show (offerOptions .kPull audio video).useRtpMux = true from rfl, if_pos rfl,
    (offerBundle_spec _).1]
  cases audio <;> cases video <;> simp [offerMedia, offerOptions, getDirection]

lemma transportInfos_offerDescription (hs : s.Plain) (options : RTCOfferAnswerOptions) :
    ∀ td ∈ (offerDescription s options certificate).transportInfos, PlainTransport td := by
  have hinfo : ∀ mid d, (∀ td ∈ d.transportInfos, PlainTransport td) →
      ∀ td ∈ (addTransportInfo s mid certificate d).transportInfos, PlainTransport td := by
    intro mid d hd
    unfold addTransportInfo
    split
    · exact hd
    · refine List.forall_mem_append.mpr ⟨hd, List.forall_mem_singleton.mpr
        ⟨hs.iceUfrag, hs.icePwd, fun fp hfp => hs.algorithm fp ?_⟩⟩
      dsimp only at hfp
      split at hfp
      · exact hfp
      · cases hfp
  have hmedia : ∀ type send recv rtcpMux source d, (∀ td ∈ d.transportInfos, PlainTransport td) →
      ∀ td ∈ (offerMedia s type send recv rtcpMux source certificate d).transportInfos,
        PlainTransport td := by
    intro type send recv rtcpMux source d hd
    unfold offerMedia
    split
    · exact hinfo _ _ hd
    · exact hd
  unfold offerDescription
  dsimp only
  split
  · rw [(offerBundle_spec _).2.1]
    exact hmedia _ _ _ _ _ _ (hmedia _ _ _ _ _ _ nofun)
  · exact hmedia _ _ _ _ _ _ (hmedia _ _ _ _ _ _ nofun)

/-- The description that a pull stream prints. -/
def pullDescription (s : Surroundings) (certificate : Nat) (audio video : Bool) :
    SessionDescription :=
  let d := offerDescription s (offerOptions .kPull audio video) (some certificate)
  gatheringCandidate s (transportNames d) d

lemma pullOffer_eq (s : Surroundings) (p : Stream.Ptr) (certificate : Nat) (audio video : Bool)
    (publisher : AnsweredPeer) : pullOffer s p certificate audio video publisher =
      (pullDescription (s.pulling publisher) certificate audio video).toText := rfl

lemma streamsOf_pullDescription (hs : s.Plain) (certificate : Nat) (audio video : Bool)
    (ty : MediaType) : (pullDescription s certificate audio video).streamsOf ty =
      if pulled audio video ty then s.source ty else [] := by
  have hcontents := offerContents s (some certificate) audio video
  have hcandidates : ∀ content ∈
      (offerDescription s (offerOptions .kPull audio video) (some certificate)).contents,
        ∀ c ∈ content.candidates, c.WellFormed := by
    rw [hcontents]
    cases audio <;> cases video <;> simp
  rw [pullDescription, ((gatheringCandidate_spec hs hcandidates).1).streamsOf, streamsOf_eq, hcontents]
  cases ty <;> cases audio <;> cases video <;>
    simp [pulled, Surroundings.source, MediaType.mid_inj]

lemma names_offerDescription (options : RTCOfferAnswerOptions) :
    ∀ group ∈ (offerDescription s options certificate).contentGroups, ∀ name ∈ group.contentNames,
      ∃ ty : MediaType, name = ty.mid := by
  unfold offerDescription
  dsimp only
  split
  · exact (offerBundle_spec _).2.2 (by simp)
  · simp

lemma printable_pullDescription (hs : s.Plain) (certificate : Nat) (audio video : Bool)
    (hsource : ∀ ty, ∀ stream ∈ s.source ty, stream.Readable ∧
      ∀ group ∈ stream.ssrcGroups, group.Readable) :
    Printable (pullDescription s certificate audio video) := by
  have hcontents := offerContents s (some certificate) audio video
  have hcandidates : ∀ content ∈
      (offerDescription s (offerOptions .kPull audio video) (some certificate)).contents,
        ∀ c ∈ content.candidates, c.WellFormed := by
    rw [hcontents]
    cases audio <;> cases video <;> simp
  obtain ⟨hsame, hgathered⟩ :
      SameTracks (offerDescription s (offerOptions .kPull audio video) (some certificate))
        (pullDescription s certificate audio video) ∧ _ := gatheringCandidate_spec hs hcandidates
  have htypes : (pullDescription s certificate audio video).contents.map
      MediaContentDescription.type = (if audio then [.audio] else []) ++
        if video then [.video] else [] := by
    have hfst := congrArg (List.map Prod.fst) hsame.contents
    rw [List.map_map, List.map_map, hcontents] at hfst
    refine hfst.trans ?_
    cases audio <;> cases video <;> rfl
  have hnodup : ((pullDescription s certificate audio video).contents.map
      MediaContentDescription.type).Nodup := by
    rw [htypes]
    cases audio <;> cases video <;> decide
  refine ⟨hnodup, hgathered, fun content hcontent stream hstream => ?_, ?_, ?_⟩
  · have hstreams : (pullDescription s certificate audio video).streamsOf content.type =
        content.streams := by
      rw [SessionDescription.streamsOf, getContent_of_mem hnodup hcontent]
    rw [← hstreams, streamsOf_pullDescription hs] at hstream
    split at hstream
    · exact hsource _ stream hstream
    · cases hstream
  · rw [hsame.transports]
    exact transportInfos_offerDescription hs _
  · rw [hsame.groups]
    intro group hgroup name hname
    obtain ⟨ty, rfl⟩ := names_offerDescription _ group hgroup name hname
    cases ty <;> exact of_literal rfl

/-- Where the publisher's answer was accepted, the source of a type is what the answer declared. -/
lemma source_pulling {opening : Opening} {calls : Text → RemoteCalls} {address : Nat} {sdp : Text}
    {pc publisher : AnsweredPeer} (s : Surroundings)
    (h : pc.setRemoteSdp opening calls address sdp = some (.ok (), publisher)) :
    ∃ d, Sdp.setRemoteSdp (fun name => decide (name ∈ pc.transportNames)) sdp = .ok d ∧
      ∀ ty, (s.pulling publisher).source ty = d.streamsOf ty := by
  obtain ⟨hr, hdesc⟩ := AnsweredPeer.setRemoteSdp_refines h
  cases hd : Sdp.setRemoteSdp (fun name => decide (name ∈ pc.transportNames)) sdp with
  | error e =>
    rw [hd] at hr
    cases hr
  | ok d =>
    refine ⟨d, rfl, fun ty => ?_⟩
    have hsource : (s.pulling publisher).source ty = (publisher.getSource ty.mid).getD [] := by
      cases ty <;> rfl
    rw [hsource, AnsweredPeer.getSource, hdesc d hd, SessionDescription.streamsOf]
    change ((d.getContent ty.mid).map _).getD [] = _
    cases d.getContent ty.mid <;> rfl

/-- A peer that pulls a stream reads in the offer the tracks that the publisher declared: the audio
tracks as they are, and the video tracks provided that the publisher declared a group of them. -/
theorem pullOffer_tracks {opening : Opening} {calls : Text → RemoteCalls} {address : Nat}
    {sdp : Text} {pc publisher : AnsweredPeer} (hs : s.Plain)
    (h : pc.setRemoteSdp opening calls address sdp = some (.ok (), publisher)) (p : Stream.Ptr)
    (certificate : Nat) (audio video : Bool) (ty : MediaType) :
    readTracks (peerSection ty.mid (sdpLines (pullOffer s p certificate audio video publisher))) =
      if pulled audio video ty = true ∧ (ty = .video → declaredGroups .video sdp ≠ []) then
        readTracks (sectionOf ty sdp)
      else .ok [] := by
  obtain ⟨d, hd, hsource⟩ := source_pulling s h
  obtain ⟨tracks, htracks⟩ := answerTracks_of_setRemoteSdp hd
  have hplain : (s.pulling publisher).Plain := ⟨hs.iceUfrag, hs.icePwd, hs.algorithm, hs.gathered⟩
  have hprintable : Printable (pullDescription (s.pulling publisher) certificate audio video) := by
    refine printable_pullDescription hplain certificate audio video fun ty stream hstream => ?_
    rw [hsource] at hstream
    exact ⟨(htracks.proper ty).readable_of_ungrouped (htracks.streams ty) stream hstream,
      htracks.groups ty stream hstream⟩
  have hstreams := streamsOf_pullDescription hplain certificate audio video ty
  rw [hsource] at hstreams
  rw [pullOffer_eq]
  by_cases hpulled : pulled audio video ty = true
  · rw [if_pos hpulled] at hstreams
    rw [hprintable.readTracks_of_copies (htracks.proper ty) (hstreams ▸ htracks.streams ty),
      htracks.reads]
    have hcopies : copies sdp ty = 0 ↔ ¬ (ty = .video → declaredGroups .video sdp ≠ []) := by
      cases ty <;> simp [copies]
    by_cases hzero : copies sdp ty = 0
    · rw [if_pos hzero, if_neg fun hboth => hcopies.mp hzero hboth.2]
    · rw [if_neg hzero, if_pos ⟨hpulled, not_not.mp fun hnot => hzero (hcopies.mpr hnot)⟩]
  · rw [if_neg hpulled] at hstreams
    rw [hprintable.readTracks_of_copies (k := 0) (htracks.proper ty) (by rw [hstreams]; rfl),
      if_pos rfl, if_neg fun hboth => hpulled hboth.1]

/-- An answer with an audio track and a video track of two ssrcs. -/
def sampleAnswer : Text :=
  ("m=audio 9 x\na=ssrc:1 cname:c\na=ssrc:1 msid:s mic\nm=video 9 x\na=ssrc-group:FID 2 3\n" ++
    "a=ssrc:2 msid:s cam\na=ssrc:3 msid:s cam\n").toList

lemma sampleAnswer_read :
    (Sdp.setRemoteSdp (fun name => decide (name ∈ answered.transportNames)) sampleAnswer).map
        (fun _ => ()) = .ok () ∧
      declaredGroups .video sampleAnswer ≠ [] ∧ readTracks (sectionOf .video sampleAnswer) =
        .ok [{ id := ['c', 'a', 'm'], ssrcs := [2, 3], streamId := ['s'] }] := by
  unfold sampleAnswer
  simp only [String.toList_append]
  decide +kernel

/-- The video track of the answer is in the offer. -/
theorem sampleOffer_tracks :
    ∃ publisher, answered.setRemoteSdp unwired.toOpening (fun _ => {}) 2 sampleAnswer =
        some (.ok (), publisher) ∧
      readTracks (peerSection MediaType.video.mid (sdpLines
        (pullOffer {} 0 0 true true publisher))) =
          .ok [{ id := ['c', 'a', 'm'], ssrcs := [2, 3], streamId := ['s'] }] := by
  obtain ⟨haccepted, hgroups, hread⟩ := sampleAnswer_read
  have hplain : Surroundings.Plain {} := ⟨by decide, by decide, nofun, nofun⟩
  obtain ⟨r, publisher, h⟩ : ∃ r publisher,
      answered.setRemoteSdp unwired.toOpening (fun _ => {}) 2 sampleAnswer = some (r, publisher) := by
    unfold AnsweredPeer.setRemoteSdp
    split
    · exact ⟨_, _, rfl⟩
    · rw [if_neg (by decide)]
      split <;> exact ⟨_, _, rfl⟩
  obtain rfl : r = .ok () := (AnsweredPeer.setRemoteSdp_refines h).1.trans haccepted
  refine ⟨publisher, h, (pullOffer_tracks hplain h 0 0 true true .video).trans ?_⟩
  rw [if_pos ⟨rfl, fun _ => hgroups⟩, hread]

end XrtcServer.Pc
