import XrtcServer.Sdp.Readings
import XrtcServer.Sdp.RoundTrip
import XrtcServer.Sdp.Shown

/-!
# What a line changes can be seen

Two lines that are read differently lead to different descriptions after some text that comes before
them. The texts used for this set everything that a line can change to a known value first, and
declare an ssrc that is chosen for the two lines.
-/

namespace XrtcServer.Sdp
open XrtcServer.Base XrtcServer.Core

variable {line line' mediaType mediaType' : Text} {s s' : ParseState} {ty : MediaType}
  {id : UInt32} {p : Text}

/-- The values that are set beforehand: no line sets both. -/
def probeValues : List Text := ["p".toList, "q".toList]

/-- The entry of an ssrc after its cname and its msid were set to `p`. -/
def probeInfo (id : UInt32) (p : Text) : SsrcInfo := ⟨id, p, p, p⟩

def probeGroup (id : UInt32) : SsrcGroup := ⟨"FID".toList, [id]⟩

/-- Both sections were there, and all that they collected is known. -/
structure Probe (id : UInt32) (p : Text) (s : ParseState) : Prop where
  contents : ∀ ty, ty ∈ s.contents
  iceUfrag : ∀ ty, (s.td ty).iceUfrag = p
  icePwd : ∀ ty, (s.td ty).icePwd = p
  fingerprint : ∀ ty, (s.td ty).identityFingerprint = none
  ssrcInfo : ∀ ty, s.ssrcInfo ty = [probeInfo id p]
  ssrcGroups : s.videoSsrcGroups = [probeGroup id]

/-! ## Edits -/

/-- What replaces either value is known from the outcomes. -/
lemma eq_of_getD {a b : Option Text} (h : ∀ p ∈ probeValues, a.getD p = b.getD p) : a = b := by
  have hp := h "p".toList (by decide)
  have hq := h "q".toList (by decide)
  have hne : "p".toList ≠ "q".toList := by decide
  generalize "p".toList = p at hp hne
  generalize "q".toList = q at hq hne
  cases a with
  | none =>
    cases b with
    | none => rfl
    | some b => exact absurd (hp.trans hq.symm) hne
  | some a =>
    cases b with
    | none => exact absurd (hp.symm.trans hq) hne
    | some b => exact congrArg some hp

lemma transportEdit_eq {e e' : TransportEdit}
    (h : ∀ p ∈ probeValues, ∃ td : TransportDescription, td.iceUfrag = p ∧ td.icePwd = p ∧
      td.identityFingerprint = none ∧ e.apply td = e'.apply td) : e = e' := by
  have hsets : ∀ p ∈ probeValues, e.iceUfrag.getD p = e'.iceUfrag.getD p ∧
      e.icePwd.getD p = e'.icePwd.getD p ∧ e.identityFingerprint = e'.identityFingerprint := by
    intro p hp
    obtain ⟨td, hufrag, hpwd, hfp, heq⟩ := h p hp
    rw [TransportEdit.apply, TransportEdit.apply, hufrag, hpwd, hfp, Option.or_none,
      Option.or_none] at heq
    injection heq with _ hufrag' hpwd' hfp'
    exact ⟨hufrag', hpwd', hfp'⟩
  obtain ⟨ufrag, pwd, fp⟩ := e
  rw [TransportEdit.mk.injEq]
  exact ⟨eq_of_getD fun p hp => (hsets p hp).1, eq_of_getD fun p hp => (hsets p hp).2.1,
    (hsets "p".toList (by decide)).2.2⟩

lemma ssrcEdit_eq {e e' : SsrcEdit}
    (h : ∀ p ∈ probeValues, e.apply (probeInfo id p) = e'.apply (probeInfo id p)) : e = e' := by
  have hsets : ∀ p ∈ probeValues, e.cname.getD p = e'.cname.getD p ∧
      e.streamId.getD p = e'.streamId.getD p ∧ e.trackId.getD p = e'.trackId.getD p := by
    intro p hp
    have heq := h p hp
    injection heq with _ hcname hstream htrack
    exact ⟨hcname, hstream, htrack⟩
  obtain ⟨cname, streamId, trackId⟩ := e
  rw [SsrcEdit.mk.injEq]
  exact ⟨eq_of_getD fun p hp => (hsets p hp).1, eq_of_getD fun p hp => (hsets p hp).2.1,
    eq_of_getD fun p hp => (hsets p hp).2.2⟩

/-! ## Streams -/

section streams
variable {x x' : Option (UInt32 × SsrcEdit)} {g : SsrcGroup} {groups groups' : List SsrcGroup}

/-- The ssrcs of a section after a line that has read the given one, or none. -/
def probeIds (id : UInt32) : Option UInt32 → List UInt32
  | none => [id]
  | some i => if i = id then [id] else [id, i]

lemma ssrcIds_applySsrc (id : UInt32) (p : Text) (x : Option (UInt32 × SsrcEdit)) :
    (applySsrc [probeInfo id p] x).map SsrcInfo.ssrcId = probeIds id (x.map Prod.fst) := by
  cases x with
  | none => rfl
  | some read =>
    obtain ⟨i, edit⟩ := read
    have hkeys : (applySsrc [probeInfo id p] (some (i, edit))).map SsrcInfo.ssrcId =
        if i ∈ [id] then [id] else [id] ++ [i] :=
      map_key_upsert (fun _ => rfl) rfl
    rw [hkeys]
    simp [probeIds]

/-- Which ssrc was read is known from the ssrcs that are there. -/
lemma eq_of_probeIds {a b : Option UInt32}
    (h : ∀ id y, (probeIds id a).count y = (probeIds id b).count y) : a = b := by
  have hnext : ∀ i : UInt32, i ≠ i + 1 := by
    intro i hi
    have h := congrArg UInt32.toBitVec hi
    simp at h
  cases a with
  | none =>
    cases b with
    | none => rfl
    | some j =>
      have hcount := h (j + 1) j
      simp [probeIds, hnext j, (hnext j).symm] at hcount
  | some i =>
    cases b with
    | none =>
      have hcount := h (i + 1) i
      simp [probeIds, hnext i, (hnext i).symm] at hcount
    | some j =>
      by_contra hij
      have hne : i ≠ j := fun h => hij (congrArg some h)
      have hcount := h i j
      simp [probeIds, hne, hne.symm] at hcount

/-- The track of an entry that is alone. -/
def trackOf (info : SsrcInfo) : StreamParams :=
  { id := info.trackId, ssrcs := [info.ssrcId], cname := info.cname, streamId := info.streamId }

lemma createTrackFromSsrcInfo_singleton (info : SsrcInfo) :
    createTrackFromSsrcInfo [info] = [trackOf info] := rfl

lemma applySsrc_same (id : UInt32) (p : Text) (e : SsrcEdit) :
    applySsrc [probeInfo id p] (some (id, e)) = [e.apply (probeInfo id p)] := by
  rw [applySsrc, upsert]
  exact if_pos rfl

/-- What was read of an ssrc is known once it is known of which, from the track of an entry of that
ssrc. -/
lemma ssrc_eq (hfst : x.map Prod.fst = x'.map Prod.fst)
    (h : ∀ id e e', x = some (id, e) → x' = some (id, e') → ∀ p ∈ probeValues,
      trackOf (e.apply (probeInfo id p)) = trackOf (e'.apply (probeInfo id p))) : x = x' := by
  cases x with
  | none =>
    cases x' with
    | none => rfl
    | some read => cases hfst
  | some read =>
    cases x' with
    | none => cases hfst
    | some read' =>
      obtain ⟨id, e⟩ := read
      obtain ⟨id', e'⟩ := read'
      cases hfst
      have he : e = e' := by
        refine @ssrcEdit_eq id e e' fun p hp => ?_
        have htrack := h id e e' rfl rfl p hp
        injection htrack with htrackId hssrcs _ hcname hstreamId
        rw [SsrcEdit.apply, SsrcEdit.apply, SsrcInfo.mk.injEq]
        exact ⟨rfl, hcname, hstreamId, htrackId⟩
      rw [he]

lemma audioSsrc_eq (h : ∀ id, ∀ p ∈ probeValues,
    createTrackFromSsrcInfo (applySsrc [probeInfo id p] x) =
      createTrackFromSsrcInfo (applySsrc [probeInfo id p] x')) : x = x' := by
  refine ssrc_eq (eq_of_probeIds fun id y => ?_) fun id e e' hx hx' p hp => ?_
  · rw [← ssrcIds_applySsrc id "p".toList, ← ssrcIds_applySsrc id "p".toList,
      ← (tracksOf_createTrackFromSsrcInfo _).ssrcs.count_eq, h id "p".toList (by decide),
      (tracksOf_createTrackFromSsrcInfo _).ssrcs.count_eq]
  · have heq := h id p hp
    rw [hx, hx', applySsrc_same, applySsrc_same] at heq
    exact (List.cons.inj heq).1

lemma count_probeIds_self (id : UInt32) (a : Option UInt32) : (probeIds id a).count id = 1 := by
  cases a with
  | none => simp [probeIds]
  | some i =>
    by_cases hi : i = id
    · simp [probeIds, hi]
    · simp [probeIds, hi]

lemma attachGroup_probe (info : SsrcInfo) :
    attachGroup [trackOf info] (probeGroup info.ssrcId) =
      [{ trackOf info with ssrcGroups := [probeGroup info.ssrcId] }] := by
  simp [attachGroup, probeGroup, trackOf, StreamParams.hasSsrc]

lemma videoSsrc_eq {gs gs' : List SsrcGroup} (hgs : ∀ g ∈ gs, g.ssrcs ≠ [])
    (hgs' : ∀ g ∈ gs', g.ssrcs ≠ [])
    (h : ∀ id, ∀ p ∈ probeValues,
      videoStreams (applySsrc [probeInfo id p] x) (probeGroup id :: gs) =
        videoStreams (applySsrc [probeInfo id p] x') (probeGroup id :: gs')) :
    gs.length = gs'.length ∧ x = x' := by
  have hcount : ∀ id y, (gs.length + 1) * (probeIds id (x.map Prod.fst)).count y =
      (gs'.length + 1) * (probeIds id (x'.map Prod.fst)).count y := by
    intro id y
    have hprobe : (probeGroup id).ssrcs ≠ [] := by simp [probeGroup]
    have hcount := count_videoStreams (List.forall_mem_cons.mpr ⟨hprobe, hgs⟩)
      (applySsrc [probeInfo id "p".toList] x) y
    have hcount' := count_videoStreams (List.forall_mem_cons.mpr ⟨hprobe, hgs'⟩)
      (applySsrc [probeInfo id "p".toList] x') y
    rw [ssrcIds_applySsrc, List.length_cons] at hcount hcount'
    rw [← hcount, ← hcount', h id "p".toList (by decide)]
  have hlength : gs.length = gs'.length := by
    have hself := hcount 0 0
    rw [count_probeIds_self, count_probeIds_self] at hself
    omega
  refine ⟨hlength, ssrc_eq (eq_of_probeIds fun id y => ?_) fun id e e' hx hx' p hp => ?_⟩
  · have hy := hcount id y
    rw [hlength] at hy
    exact Nat.eq_of_mul_eq_mul_left (Nat.succ_pos _) hy
  · have heq := h id p hp
    have hfirst (e : SsrcEdit) (gs : List SsrcGroup) : ∃ more,
        videoStreams [e.apply (probeInfo id p)] (probeGroup id :: gs) =
          { trackOf (e.apply (probeInfo id p)) with ssrcGroups := [probeGroup id] } :: more := by
      have hprobe : (probeGroup id).ssrcs ≠ [] := by simp [probeGroup]
      rw [videoStreams_eq, createTrackFromSsrcInfo_singleton, groupStreams_cons hprobe]
      exact ⟨_, congrArg (· ++ _) (attachGroup_probe _)⟩
    rw [hx, hx', applySsrc_same, applySsrc_same] at heq
    obtain ⟨more, hmore⟩ := hfirst e gs
    obtain ⟨more', hmore'⟩ := hfirst e' gs'
    rw [hmore, hmore'] at heq
    have htrack := congrArg (fun track : StreamParams => { track with ssrcGroups := [] })
      (List.cons.inj heq).1
    exact htrack

/-- What was read of groups is known once it is known of how many, from the tracks that have the
first ssrc of a group. -/
lemma videoGroup_eq {a b : SsrcGroup} (ha : a.ssrcs ≠ []) (hb : b.ssrcs ≠ [])
    (h : ∀ id, ∃ p, videoStreams (applySsrc [probeInfo id p] x) [probeGroup id, a] =
      videoStreams (applySsrc [probeInfo id p] x) [probeGroup id, b]) : a = b := by
  obtain ⟨id, rest, hid⟩ := List.exists_cons_of_ne_nil ha
  obtain ⟨p, heq⟩ := h id
  have hprobe : (probeGroup id).ssrcs ≠ [] := by simp [probeGroup]
  rw [videoStreams_eq, videoStreams_eq, groupStreams_cons hprobe, groupStreams_cons hprobe,
    groupStreams_cons ha, groupStreams_cons hb, List.append_right_inj] at heq
  have heq := List.append_cancel_right heq
  have hmem : id ∈ (applySsrc [probeInfo id p] x).map SsrcInfo.ssrcId := by
    rw [ssrcIds_applySsrc, ← List.count_pos_iff, count_probeIds_self]
    exact Nat.one_pos
  rw [← (tracksOf_createTrackFromSsrcInfo _).ssrcs.mem_iff,
    ← flatMap_ssrcs_attachGroup _ (probeGroup id)] at hmem
  obtain ⟨track, htrack, hssrc⟩ := List.mem_flatMap.mp hmem
  exact attachGroup_injective htrack hssrc hid heq

end streams

/-! ## Readings -/

section readings
variable {r r' : LineReading}

lemma streams_audio_apply (r : LineReading) (mediaType : Text) (s : ParseState) :
    ((r.apply mediaType s).content .audio).streams =
      createTrackFromSsrcInfo (applySsrc (s.ssrcInfo .audio) (r.inside .audio).ssrc) :=
  congrArg createTrackFromSsrcInfo (ssrcInfo_apply r mediaType s .audio)

lemma streams_video_apply (r : LineReading) (mediaType : Text) (s : ParseState) :
    ((r.apply mediaType s).content .video).streams =
      videoStreams (applySsrc (s.ssrcInfo .video) (r.inside .video).ssrc)
        (s.videoSsrcGroups ++ (r.inside .video).ssrcGroup.toList) :=
  congrArg₂ videoStreams (ssrcInfo_apply r mediaType s .video)
    (videoSsrcGroups_apply r mediaType s)

/-- Two readings that lead from a probe to one description. -/
structure SeenAlike (id : UInt32) (p : Text) (r r' : LineReading) : Prop where
  groups : r.groups = r'.groups
  entered : r.entered = r'.entered
  transport : ∀ ty, ∃ td : TransportDescription, td.iceUfrag = p ∧ td.icePwd = p ∧
    td.identityFingerprint = none ∧
    (r.inside ty).transport.apply td = (r'.inside ty).transport.apply td
  audio : createTrackFromSsrcInfo (applySsrc [probeInfo id p] (r.inside .audio).ssrc) =
    createTrackFromSsrcInfo (applySsrc [probeInfo id p] (r'.inside .audio).ssrc)
  video : videoStreams (applySsrc [probeInfo id p] (r.inside .video).ssrc)
      (probeGroup id :: (r.inside .video).ssrcGroup.toList) =
    videoStreams (applySsrc [probeInfo id p] (r'.inside .video).ssrc)
      (probeGroup id :: (r'.inside .video).ssrcGroup.toList)

lemma Probe.seenAlike (hs : Probe id p s)
    (h : (r.apply mediaType s).description = (r'.apply mediaType' s).description) :
    SeenAlike id p r r' := by
  have hstreams (ty : MediaType) : ((r.apply mediaType s).content ty).streams =
      ((r'.apply mediaType' s).content ty).streams := by
    have hmem : ∀ (r : LineReading) (m : Text), ty ∈ (r.apply m s).contents := by
      intro r m
      rw [contents_apply]
      exact List.mem_append_left _ (hs.contents ty)
    have hof := congrArg (·.streamsOf ty) h
    simpa only [streamsOf_description, if_pos (hmem r mediaType), if_pos (hmem r' mediaType')]
      using hof
  have hentered : r.entered = r'.entered := by
    have hcontents := congrArg (·.contents.map MediaContentDescription.type) h
    simp only [types_description, contents_apply, List.append_right_inj] at hcontents
    generalize r.entered = a at hcontents ⊢
    generalize r'.entered = b at hcontents ⊢
    cases a <;> cases b <;> cases hcontents <;> rfl
  have htd (ty : MediaType) : (r.apply mediaType s).td ty = (r'.apply mediaType' s).td ty := by
    have hinfos := congrArg SessionDescription.transportInfos h
    injection hinfos with haudio hvideo
    injection hvideo with hvideo
    cases ty with
    | audio => exact haudio
    | video => exact hvideo
  refine ⟨?_, hentered, fun ty => ?_, ?_, ?_⟩
  · exact List.append_cancel_left (congrArg SessionDescription.contentGroups h)
  · obtain ⟨mid, hmid⟩ := td_begin s r.entered ty
    have heq := htd ty
    rw [td_apply, td_apply, ← hentered, hmid] at heq
    exact ⟨{ s.td ty with mid }, hs.iceUfrag ty, hs.icePwd ty, hs.fingerprint ty, heq⟩
  · have haudio := hstreams .audio
    rwa [streams_audio_apply, streams_audio_apply, hs.ssrcInfo] at haudio
  · have hvideo := hstreams .video
    rwa [streams_video_apply, streams_video_apply, hs.ssrcInfo, hs.ssrcGroups] at hvideo

/-- Readings that no probe tells apart are the same. -/
lemma reading_eq (hr : r.Sound) (hr' : r'.Sound)
    (h : ∀ id, ∀ p ∈ probeValues, SeenAlike id p r r') : r = r' := by
  have hseen := h 0 "p".toList (by decide)
  have htransport (ty : MediaType) : (r.inside ty).transport = (r'.inside ty).transport :=
    transportEdit_eq fun p hp => (h 0 p hp).transport ty
  have haudio : (r.inside .audio).ssrc = (r'.inside .audio).ssrc :=
    audioSsrc_eq fun id p hp => (h id p hp).audio
  obtain ⟨hlength, hvideo⟩ := videoSsrc_eq (by simpa using hr.video) (by simpa using hr'.video)
    fun id p hp => (h id p hp).video
  have hgroup : (r.inside .video).ssrcGroup = (r'.inside .video).ssrcGroup := by
    cases ha : (r.inside .video).ssrcGroup with
    | none =>
      cases hb : (r'.inside .video).ssrcGroup with
      | none => rfl
      | some b => rw [ha, hb] at hlength; cases hlength
    | some a =>
      cases hb : (r'.inside .video).ssrcGroup with
      | none => rw [ha, hb] at hlength; cases hlength
      | some b =>
        have hstreams (id : UInt32) :
            videoStreams (applySsrc [probeInfo id "p".toList] (r.inside .video).ssrc)
                [probeGroup id, a] =
              videoStreams (applySsrc [probeInfo id "p".toList] (r.inside .video).ssrc)
                [probeGroup id, b] := by
          have heq := (h id "p".toList (by decide)).video
          rwa [← hvideo, ha, hb] at heq
        exact congrArg some (videoGroup_eq (hr.video a ha) (hr'.video b hb)
          fun id => ⟨_, hstreams id⟩)
  refine LineReading.ext hseen.groups hseen.entered (funext fun ty => ?_)
  cases ty with
  | audio => exact SectionReading.ext (htransport .audio) (hr.audio.trans hr'.audio.symm) haudio
  | video => exact SectionReading.ext (htransport .video) hgroup hvideo

end readings

/-! ## Texts -/

def mediaHeader (mid : Text) : Text := "m=".toList ++ mid ++ " 9 RTP/AVP".toList

/-- A section whose ICE parameters, cname, stream and track are all `p`. -/
def sectionProbe (ty : MediaType) (id : UInt32) (p : Text) : List Text :=
  [mediaHeader ty.mid, "a=ice-ufrag:".toList ++ p, "a=ice-pwd:".toList ++ p,
    addSsrcLine id "cname".toList p, addSsrcLine id "msid".toList (p ++ " ".toList ++ p)]

/-- The lines of a probe that ends in a section, or in one that the parser knows nothing of. -/
def probeLines (ending : Option MediaType) (id : UInt32) (p : Text) : List Text :=
  sectionProbe .audio id p ++ sectionProbe .video id p ++
    ["a=ssrc-group:FID ".toList ++ decimal id.toNat,
      mediaHeader (ending.elim "text".toList MediaType.mid)]

/-- The state after a section. -/
def ParseState.probed (s : ParseState) (ty : MediaType) (id : UInt32) (p : Text) : ParseState :=
  let s := { s.begin (some ty) with mediaType := ty.mid }
  match ty with
  | .audio =>
    { s with
      audioTd := { s.audioTd with iceUfrag := p, icePwd := p }
      audioSsrcInfo := [probeInfo id p] }
  | .video =>
    { s with
      videoTd := { s.videoTd with iceUfrag := p, icePwd := p }
      videoSsrcInfo := [probeInfo id p] }

section texts
variable {attr value : Text}

/-- What is read from the lines of a probe that do not depend on an ssrc. -/
lemma fixed_lines :
    (∀ mid ∈ ["audio".toList, "video".toList, "text".toList],
      MediaLine (mediaHeader mid) = true ∧ nextMediaType [] (mediaHeader mid) = .ok mid ∧
        readSection .audio (mediaHeader mid) = .ok {} ∧
        readSection .video (mediaHeader mid) = .ok {}) ∧
      ∀ p ∈ probeValues, ∀ ty ∈ [MediaType.audio, MediaType.video],
        (∀ l ∈ ["a=ice-ufrag:".toList ++ p, "a=ice-pwd:".toList ++ p],
          MediaLine l = false ∧ bundleGroups l = []) ∧
        readSection ty ("a=ice-ufrag:".toList ++ p) = .ok { transport := { iceUfrag := p } } ∧
        readSection ty ("a=ice-pwd:".toList ++ p) = .ok { transport := { icePwd := p } } := by
  decide +kernel

lemma namedType_elim (ending : Option MediaType) :
    namedType (ending.elim "text".toList MediaType.mid) = ending := by
  cases ending with
  | none =>
    have haudio : "text".toList ≠ MediaType.audio.mid := by simp [MediaType.mid]
    have hvideo : "text".toList ≠ MediaType.video.mid := by simp [MediaType.mid]
    exact (if_neg haudio).trans (if_neg hvideo)
  | some ty => exact namedType_mid ty

lemma parseLine_mediaHeader (s : ParseState) (ending : Option MediaType) :
    parseLine s (mediaHeader (ending.elim "text".toList MediaType.mid)) =
      .ok { s.begin ending with mediaType := ending.elim "text".toList MediaType.mid } := by
  have hmid : ending.elim "text".toList MediaType.mid ∈
      ["audio".toList, "video".toList, "text".toList] := by
    rcases ending with - | - | - <;> simp [MediaType.mid]
  obtain ⟨hline, hnext, haudio, hvideo⟩ := fixed_lines.1 _ hmid
  rw [parseLine_bind, parseMediaLine_eq, nextMediaType_of_mediaLine hline s.mediaType [], hnext,
    Except.map, ParseState.afterMedia, if_pos hline, enter_eq, Except.bind, namedType_elim]
  dsimp only
  cases ending with
  | none => rfl
  | some ty =>
    dsimp only
    cases ty with
    | audio => rw [haudio, Except.map, SectionReading.apply_nothing]
    | video => rw [hvideo, Except.map, SectionReading.apply_nothing]

lemma addSsrcLine_eq (id : UInt32) (attr value : Text) :
    addSsrcLine id attr value =
      "a=ssrc:".toList ++ (decimal id.toNat ++ ' ' :: (attr ++ ':' :: value)) := by
  unfold addSsrcLine
  generalize decimal id.toNat = digits
  simp

lemma notMem_addSsrcLine {c : Char} (hc : c ∉ "a=ssrc: ".toList) (hdigit : c.isDigit = false)
    (hattr : c ∉ attr) (hvalue : c ∉ value) : c ∉ addSsrcLine id attr value := by
  have hhead : "a=ssrc: ".toList = "a=ssrc:".toList ++ [' '] := by simp
  have hblank : ' ' ∈ "a=ssrc: ".toList := mem_literal (by decide)
  have hcolon : ':' ∈ "a=ssrc: ".toList := mem_literal (by decide)
  have hdecimal : c ∉ decimal id.toNat := by
    intro h
    rw [isDigit_of_mem_decimal h] at hdigit
    cases hdigit
  intro hmem
  rw [addSsrcLine_eq] at hmem
  rcases List.mem_append.mp hmem with h | h
  · exact hc (hhead ▸ List.mem_append_left _ h)
  rcases List.mem_append.mp h with h | h
  · exact hdecimal h
  rcases List.mem_cons.mp h with rfl | h
  · exact hc hblank
  rcases List.mem_append.mp h with h | h
  · exact hattr h
  rcases List.mem_cons.mp h with rfl | h
  · exact hc hcolon
  · exact hvalue h

lemma readSsrcLine_addSsrcLine (hattr : ' ' ∉ attr ∧ ':' ∉ attr) (hne : attr ≠ [])
    (hvalue : value.dropWhile (· = ':') = value) :
    readSsrcLine (addSsrcLine id attr value) = .ok (some (id, attr, value)) := by
  have hcontains : contains (addSsrcLine id attr value) "a=ssrc:".toList = true := by
    rw [contains_iff, addSsrcLine_eq]
    exact (List.prefix_append ..).isInfix
  have hdecimal : ∀ c : Char, c.isDigit = false → c ∉ decimal id.toNat := by
    intro c hc h
    rw [isDigit_of_mem_decimal h] at hc
    cases hc
  have hline : substr (addSsrcLine id attr value) 2 =
      .ok (("ssrc:".toList ++ decimal id.toNat) ++ ' ' :: (attr ++ ':' :: value)) := by
    rw [substr, addSsrcLine_eq, if_pos (by simp), List.append_assoc]
    exact congrArg Except.ok (List.drop_left' rfl : ("a=".toList ++ _).drop 2 = _)
  have hfield : ' ' ∉ "ssrc:".toList ++ decimal id.toNat := by
    rw [List.mem_append, not_or]
    exact ⟨by decide, hdecimal ' ' rfl⟩
  have hrest : (attr ++ ':' :: value).dropWhile (fun c => decide (c = ' ')) =
      attr ++ ':' :: value := by
    obtain ⟨c, rest, rfl⟩ := List.exists_cons_of_ne_nil hne
    have hc : c ≠ ' ' := fun h => hattr.1 (h ▸ List.mem_cons_self)
    rw [List.cons_append, List.dropWhile_cons_of_neg (by simpa using hc)]
  have hssrc : substr ("ssrc:".toList ++ decimal id.toNat) 5 = .ok (decimal id.toNat) := by
    rw [substr, if_pos (by simp)]
    exact congrArg Except.ok (List.drop_left' rfl)
  rw [readSsrcLine, if_pos hcontains, hline]
  simp only [bind, Except.bind]
  rw [tokenizeFirst_append hfield, hrest]
  dsimp only
  rw [hssrc]
  dsimp only
  rw [fromString_decimal]
  dsimp only
  rw [tokenizeFirst_append hattr.2, hvalue]
  rfl

/-- The lines that a probe declares an ssrc with. -/
lemma parseLine_addSsrcLine (id : UInt32) (hs : s.mediaType = ty.mid) (hp : p ∈ probeValues)
    (h : (attr, value) ∈ [("cname".toList, p), ("msid".toList, p ++ " ".toList ++ p)]) :
    parseLine s (addSsrcLine id attr value) = .ok
      (({ ssrc := some (id, ssrcEdit attr value) } : SectionReading).apply ty s) := by
  have hall : ∀ p ∈ probeValues,
      ∀ av ∈ [("cname".toList, p), ("msid".toList, p ++ " ".toList ++ p)],
        (' ' ∉ av.1 ∧ ':' ∉ av.1) ∧ av.1 ≠ [] ∧ av.2.dropWhile (· = ':') = av.2 ∧
          PlainText av.1 ∧ PlainText av.2 ∧ (split ' ' av.2).length ≤ 2 ∧
          ('f' ∉ av.1 ∧ 'f' ∉ av.2) ∧ ('w' ∉ av.1 ∧ 'w' ∉ av.2) ∧ 'g' ∉ av.1 ∧ 'g' ∉ av.2 := by
    simp only [probeValues, String.reduceToList]
    decide
  obtain ⟨hattr, hne, hvalue, hplain, hplain', hmsid, hf, hw, hg⟩ := hall p hp _ h
  dsimp only at hattr hne hvalue hplain hplain' hmsid hf hw hg
  have hline := attributeLine_addSsrcLine id hplain hplain'
  have hnotf : 'f' ∉ addSsrcLine id attr value :=
    notMem_addSsrcLine (notMem_literal (by decide)) rfl hf.1 hf.2
  have hnotw : 'w' ∉ addSsrcLine id attr value :=
    notMem_addSsrcLine (notMem_literal (by decide)) rfl hw.1 hw.2
  have hnotg : 'g' ∉ addSsrcLine id attr value :=
    notMem_addSsrcLine (notMem_literal (by decide)) rfl hg.1 hg.2
  have hm : ¬ contains (addSsrcLine id attr value) "m=".toList = true := by
    rw [contains_iff]
    exact hline.noMedia
  have hufrag : contains (addSsrcLine id attr value) "a=ice-ufrag".toList = false :=
    contains_eq_false (mem_literal (by decide)) hnotf
  have hpwd : contains (addSsrcLine id attr value) "a=ice-pwd".toList = false :=
    contains_eq_false (mem_literal (by decide)) hnotw
  have hfp : contains (addSsrcLine id attr value) "a=fingerprint".toList = false :=
    contains_eq_false (mem_literal (by decide)) hnotf
  have hgroup : contains (addSsrcLine id attr value) "a=ssrc-group:".toList = false :=
    contains_eq_false (mem_literal (by decide)) hnotg
  refine parseLine_of_other hs (mediaLine_of_other hm)
    (bundleGroups_of_other (Bool.eq_false_iff.mp hline.noBundleLine.noBundle)) ?_
  have hssrc : readSsrc (addSsrcLine id attr value) =
      .ok (some (id, ssrcEdit attr value)) := by
    rw [readSsrc, readSsrcLine_addSsrcLine hattr hne hvalue]
    simp only [bind, Except.bind, Nat.not_lt_of_le hmsid, and_false, if_false]
    rfl
  refine readSection_eq_ok.mpr ⟨readTransport_eq_nothing.mpr ⟨hufrag, hpwd, hfp⟩, ?_, hssrc⟩
  split
  · exact readSsrcGroupLine_eq_none.mpr hgroup
  · rfl

lemma foldlM_sectionProbe (hs : s.ssrcInfo ty = []) (hp : p ∈ probeValues) :
    (sectionProbe ty id p).foldlM parseLine s = .ok (s.probed ty id p) := by
  have hty : ty ∈ [MediaType.audio, MediaType.video] := by cases ty <;> decide
  obtain ⟨hother, hufrag, hpwd⟩ := fixed_lines.2 p hp ty hty
  obtain ⟨hother₁, hgroups₁⟩ := hother _ (List.mem_cons_self)
  obtain ⟨hother₂, hgroups₂⟩ := hother _ (List.mem_cons_of_mem _ List.mem_cons_self)
  have hheader : parseLine s (mediaHeader ty.mid) =
      .ok { s.begin (some ty) with mediaType := ty.mid } := parseLine_mediaHeader s (some ty)
  generalize hs₁ : { s.begin (some ty) with mediaType := ty.mid } = s₁ at hheader
  have htype₁ : s₁.mediaType = ty.mid := by rw [← hs₁]
  have hline₁ := parseLine_of_other htype₁ hother₁ hgroups₁ hufrag
  have htype₂ := (mediaType_apply { transport := { iceUfrag := p } } ty s₁).trans htype₁
  have hline₂ := parseLine_of_other htype₂ hother₂ hgroups₂ hpwd
  have htype₃ := (mediaType_apply { transport := { icePwd := p } } ty _).trans htype₂
  have hline₃ := parseLine_addSsrcLine id htype₃ hp List.mem_cons_self
  have htype₄ := (mediaType_apply { ssrc := some (id, ssrcEdit "cname".toList p) } ty _).trans
    htype₃
  have hline₄ := parseLine_addSsrcLine id htype₄ hp
    (List.mem_cons_of_mem _ List.mem_cons_self)
  rw [sectionProbe, foldlM_cons_ok hheader, foldlM_cons_ok hline₁, foldlM_cons_ok hline₂,
    foldlM_cons_ok hline₃, foldlM_cons_ok hline₄, List.foldlM_nil, ← hs₁]
  have hcname : ssrcEdit "cname".toList p = { cname := p } := by rw [ssrcEdit, if_pos rfl]
  have hmsid : ∀ p ∈ probeValues, ssrcEdit "msid".toList (p ++ " ".toList ++ p) =
      { streamId := p, trackId := p } := by
    simp only [probeValues, ssrcEdit, String.reduceToList]
    decide
  rw [hcname, hmsid p hp]
  refine congrArg Except.ok ?_
  cases ty with
  | audio =>
    have hinfo : s.audioSsrcInfo = [] := hs
    simp [SectionReading.apply, TransportEdit.apply, SsrcEdit.apply, applySsrc, upsert,
      ParseState.probed, ParseState.begin, probeInfo, hinfo]
  | video =>
    have hinfo : s.videoSsrcInfo = [] := hs
    simp [SectionReading.apply, TransportEdit.apply, SsrcEdit.apply, applySsrc, upsert,
      ParseState.probed, ParseState.begin, probeInfo, hinfo]

lemma parseLine_groupProbe (hs : s.mediaType = MediaType.video.mid) (id : UInt32) :
    parseLine s ("a=ssrc-group:FID ".toList ++ decimal id.toNat) = .ok
      (({ ssrcGroup := some (probeGroup id) } : SectionReading).apply .video s) := by
  have hdigits : ∀ c ∈ decimal id.toNat, c.isDigit = true := fun c => isDigit_of_mem_decimal
  have hnumber := fromString_decimal id
  generalize decimal id.toNat = digits at hdigits hnumber ⊢
  have hother : ∀ pattern ∈ ["m=".toList, "m=group:BUNDLE".toList, "a=ice-ufrag".toList,
      "a=ice-pwd".toList, "a=fingerprint".toList, "a=ssrc:".toList],
      contains ("a=ssrc-group:FID ".toList ++ digits) pattern = false := by
    intro pattern hpattern
    have hfixed : ∀ pattern ∈ ["m=".toList, "m=group:BUNDLE".toList, "a=ice-ufrag".toList,
        "a=ice-pwd".toList, "a=fingerprint".toList, "a=ssrc:".toList],
        pattern.any Char.isDigit = false ∧ ¬ pattern <:+: "a=ssrc-group:FID ".toList := by
      simp only [String.reduceToList]
      decide
    obtain ⟨hchars, hnot⟩ := hfixed pattern hpattern
    rw [Bool.eq_false_iff, ne_eq, contains_iff]
    refine fun h => hnot (infix_of_infix_append_disjoint (fun c hc hdigit => ?_) h)
    exact List.any_eq_false.mp hchars c hc (hdigits c hdigit)
  simp only [List.forall_mem_cons] at hother
  obtain ⟨hm, hbundle, hufrag, hpwd, hfp, hssrc, -⟩ := hother
  have hcontains :
      contains ("a=ssrc-group:FID ".toList ++ digits) "a=ssrc-group:".toList = true := by
    rw [contains_iff]
    have hhead : "a=ssrc-group:".toList <+: "a=ssrc-group:FID ".toList := by simp
    exact (hhead.trans (List.prefix_append ..)).isInfix
  have hfields : split ' ' ("ssrc-group:FID".toList ++ ' ' :: digits) =
      ["ssrc-group:FID".toList, digits] := by
    have hblank : ' ' ∉ digits := fun h => absurd (hdigits _ h) (by decide)
    rw [split_append_cons (notMem_literal (by decide)), split_of_not_mem hblank]
  have hsubstr : substr ("a=ssrc-group:FID ".toList ++ digits) 2 =
      .ok ("ssrc-group:FID".toList ++ ' ' :: digits) := by
    rw [substr, if_pos (by simp)]
    simp
  have hsemantics : getAttribute "ssrc-group:FID".toList = "FID".toList := by
    simp only [String.reduceToList]
    decide
  have hgroup : readSsrcGroupLine ("a=ssrc-group:FID ".toList ++ digits) =
      .ok (some (probeGroup id)) := by
    rw [readSsrcGroupLine, if_pos hcontains, hsubstr]
    simp only [bind, Except.bind]
    rw [hfields]
    dsimp only
    rw [hsemantics, if_neg (by simp), List.mapM_cons, hnumber, List.mapM_nil]
    rfl
  refine parseLine_of_other hs (mediaLine_of_other (Bool.eq_false_iff.mp hm))
    (bundleGroups_of_other (Bool.eq_false_iff.mp hbundle)) ?_
  exact readSection_eq_ok.mpr
    ⟨readTransport_eq_nothing.mpr ⟨hufrag, hpwd, hfp⟩, hgroup, readSsrc_eq_none.mpr hssrc⟩

lemma properLine_addSsrcLine (hattr : ProperLine attr) (hvalue : ProperLine value) :
    ProperLine (addSsrcLine id attr value) := by
  refine ⟨?_, notMem_addSsrcLine (notMem_literal (by decide)) rfl hattr.2.1 hvalue.2.1,
    notMem_addSsrcLine (notMem_literal (by decide)) rfl hattr.2.2 hvalue.2.2⟩
  rw [addSsrcLine_eq]
  simp

lemma properLine_sectionProbe (hp : p ∈ probeValues) {l : Text}
    (hl : l ∈ sectionProbe ty id p) : ProperLine l := by
  have hfixed : ∀ ty : MediaType, ∀ p ∈ probeValues,
      ∀ l ∈ [mediaHeader ty.mid, "a=ice-ufrag:".toList ++ p, "a=ice-pwd:".toList ++ p,
        "cname".toList, p, "msid".toList, p ++ " ".toList ++ p], ProperLine l := by
    intro ty
    simp only [probeValues, mediaHeader]
    cases ty <;> simp only [MediaType.mid, String.reduceToList] <;> decide
  have hlines := hfixed ty p hp
  simp only [List.forall_mem_cons] at hlines
  obtain ⟨hheader, hufrag, hpwd, hcname, hp, hmsid, hids, -⟩ := hlines
  simp only [sectionProbe, List.mem_cons, List.not_mem_nil, or_false] at hl
  rcases hl with rfl | rfl | rfl | rfl | rfl
  · exact hheader
  · exact hufrag
  · exact hpwd
  · exact properLine_addSsrcLine hcname hp
  · exact properLine_addSsrcLine hmsid hids

lemma properLine_probeLines (hp : p ∈ probeValues) {ending : Option MediaType} {l : Text}
    (hl : l ∈ probeLines ending id p) : ProperLine l := by
  simp only [probeLines, List.mem_append, List.mem_cons, List.not_mem_nil, or_false] at hl
  rcases hl with (hl | hl) | rfl | rfl
  · exact properLine_sectionProbe hp hl
  · exact properLine_sectionProbe hp hl
  · have hdigits : ∀ c ∈ decimal id.toNat, c.isDigit = true := fun c => isDigit_of_mem_decimal
    have hfixed : ProperLine "a=ssrc-group:FID ".toList := of_literal rfl
    refine ⟨by simp, fun h => ?_, fun h => ?_⟩
    · exact (List.mem_append.mp h).elim hfixed.2.1 fun h => absurd (hdigits _ h) (by decide)
    · exact (List.mem_append.mp h).elim hfixed.2.2 fun h => absurd (hdigits _ h) (by decide)
  · unfold mediaHeader
    rcases ending with - | - | - <;>
      simp only [Option.elim, MediaType.mid, String.reduceToList] <;> decide

/-- The state that the lines of a probe lead to. -/
lemma probe_begin (id : UInt32) (p : Text) (ending : Option MediaType) :
    Probe id p { (({ ssrcGroup := some (probeGroup id) } : SectionReading).apply .video
      ((ParseState.probed {} .audio id p).probed .video id p)).begin ending with
        mediaType := ending.elim "text".toList MediaType.mid } := by
  have hcontents : ∀ ty, ty ∈ [MediaType.audio, MediaType.video] := by
    intro ty
    cases ty <;> simp
  refine ⟨fun ty => ?_, fun ty => ?_, fun ty => ?_, fun ty => ?_, fun ty => ?_, ?_⟩
  · rcases ending with - | - | -
    · exact hcontents ty
    · exact List.mem_append_left [MediaType.audio] (hcontents ty)
    · exact List.mem_append_left [MediaType.video] (hcontents ty)
  · rcases ending with - | - | - <;> cases ty <;> rfl
  · rcases ending with - | - | - <;> cases ty <;> rfl
  · rcases ending with - | - | - <;> cases ty <;> rfl
  · rcases ending with - | - | - <;> cases ty <;> rfl
  · rcases ending with - | - | - <;> rfl

/-- For every section, ssrc and value there is a text that leads to a probe. -/
theorem exists_probe (ending : Option MediaType) (id : UInt32) (hp : p ∈ probeValues) :
    ∃ s, (probeLines ending id p).foldlM parseLine {} = .ok s ∧ Probe id p s ∧
      namedType s.mediaType = ending := by
  have haudio := @foldlM_sectionProbe {} .audio id p rfl hp
  have hvideo := @foldlM_sectionProbe (ParseState.probed {} .audio id p) .video id p rfl hp
  generalize hs₁ : (ParseState.probed {} .audio id p).probed .video id p = s₁ at hvideo
  have hgroup := @parseLine_groupProbe s₁ (by rw [← hs₁]; rfl) id
  have hheader := parseLine_mediaHeader
    (({ ssrcGroup := some (probeGroup id) } : SectionReading).apply .video s₁)
    ending
  rw [probeLines, List.append_assoc, foldlM_append_ok haudio, foldlM_append_ok hvideo,
    foldlM_cons_ok hgroup, foldlM_cons_ok hheader]
  refine ⟨_, rfl, ?_, namedType_elim ending⟩
  rw [← hs₁]
  rcases ending with - | - | -
  · exact probe_begin id p none
  · exact probe_begin id p (some .audio)
  · exact probe_begin id p (some .video)

end texts

/-! ## Lines -/

/-- Two lines that lead to one description after every text that ends in a section are read alike in
this section. -/
theorem readLine_eq_of_description
    (h : ∀ lines s, lines ≠ [] → (∀ l ∈ lines, ProperLine l) → lines.foldlM parseLine {} = .ok s →
      namedType s.mediaType = namedType mediaType →
      (parseLine s line).map ParseState.description =
        (parseLine s line').map ParseState.description) :
    readLine mediaType line = readLine mediaType line' := by
  have hprobes : ∀ id, ∀ p ∈ probeValues, ∃ s : ParseState, Probe id p s ∧
      ((readLine mediaType line).map (·.apply (typeAfter s.mediaType line) s)).map
          ParseState.description =
        ((readLine mediaType line').map (·.apply (typeAfter s.mediaType line') s)).map
          ParseState.description := by
    intro id p hp
    obtain ⟨s, hlines, hprobe, hending⟩ := exists_probe (namedType mediaType) id hp
    have heq := h _ s (by simp [probeLines]) (fun l hl => properLine_probeLines hp hl) hlines
      hending
    rw [parseLine_eq, parseLine_eq, readLine_congr hending, readLine_congr hending] at heq
    exact ⟨s, hprobe, heq⟩
  cases hr : readLine mediaType line with
  | error e =>
    obtain ⟨s, -, heq⟩ := hprobes 0 "p".toList (by decide)
    rw [hr] at heq
    cases hr' : readLine mediaType line' with
    | error e' =>
      rw [hr'] at heq
      cases heq
      rfl
    | ok r' => rw [hr'] at heq; cases heq
  | ok r =>
    cases hr' : readLine mediaType line' with
    | error e' =>
      obtain ⟨s, -, heq⟩ := hprobes 0 "p".toList (by decide)
      rw [hr, hr'] at heq
      cases heq
    | ok r' =>
      refine congrArg Except.ok (reading_eq (sound_of_readLine hr) (sound_of_readLine hr')
        fun id p hp => ?_)
      obtain ⟨s, hprobe, heq⟩ := hprobes id p hp
      rw [hr, hr'] at heq
      exact hprobe.seenAlike (Except.ok.inj heq)

end XrtcServer.Sdp
