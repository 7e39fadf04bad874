import XrtcServer.Sdp.Parser

/-!
# The streams of an accepted answer

Every ssrc of the audio section is in one stream. The streams of the video content are added once
for each group, so there it takes exactly one group.
-/

namespace XrtcServer.Sdp
open XrtcServer.Base XrtcServer.Core

variable {mediaType line sdp : Text} {lines : List Text} {s s' : ParseState} {ty : MediaType}
  {infos infos' : List SsrcInfo} {groups groups' : List SsrcGroup} {tracks : List StreamParams}
  {group : SsrcGroup} {ssrc : UInt32} {d : SessionDescription} {dtlsTransport : Text → Bool}

/-- The lines that are read while `mid` is the media type. -/
def sectionLines (mid : Text) : Text → List Text → List Text
  | _, [] => []
  | mediaType, line :: lines =>
    match nextMediaType mediaType line with
    | .error _ => []
    | .ok mediaType =>
      if mediaType = mid then line :: sectionLines mid mediaType lines
      else sectionLines mid mediaType lines

/-- The lines of the audio or of the video section of a text. -/
def sectionOf (ty : MediaType) (sdp : Text) : List Text := sectionLines ty.mid [] (sdpLines sdp)

/-- The ssrc that a line declares. -/
def declaredSsrc (line : Text) : Option UInt32 :=
  match readSsrcLine line with
  | .ok (some (ssrc, _, _)) => some ssrc
  | _ => none

/-- The group that a line declares. -/
def declaredGroup (line : Text) : Option SsrcGroup :=
  match readSsrcGroupLine line with
  | .ok (some group) => some group
  | _ => none

def declaredSsrcs (ty : MediaType) (sdp : Text) : List UInt32 :=
  (sectionOf ty sdp).filterMap declaredSsrc

def declaredGroups (ty : MediaType) (sdp : Text) : List SsrcGroup :=
  (sectionOf ty sdp).filterMap declaredGroup

/-- The streams of the audio or of the video content. -/
def SessionDescription.streamsOf (d : SessionDescription) (ty : MediaType) : List StreamParams :=
  match d.getContent ty.mid with
  | some content => content.streams
  | none => []

/-- Each declared ssrc is once in the streams of its content, streams have distinct track ids, and
each group is attached once to the stream that has its first ssrc. -/
structure StreamsAccounted (sdp : Text) (d : SessionDescription) : Prop where
  ssrcs : ∀ ty, ∀ ssrc ∈ declaredSsrcs ty sdp,
    ((d.streamsOf ty).flatMap (·.ssrcs)).count ssrc = 1
  ids : ∀ ty, ((d.streamsOf ty).map (·.id)).Nodup
  groups : ∀ ty, ∀ group ∈ declaredGroups ty sdp, ∀ ssrc ∈ group.ssrcs.head?,
    (∃ stream ∈ d.streamsOf ty, stream.hasSsrc ssrc = true) →
      (((d.streamsOf ty).filter (·.hasSsrc ssrc)).flatMap (·.ssrcGroups)).count group =
        (declaredGroups ty sdp).count group

/-- The condition: the video section declares no ssrc or exactly one group, and no group of the audio
section, which the parser does not read, starts with an ssrc of that section. -/
def Accountable (sdp : Text) : Prop :=
  (declaredSsrcs .video sdp = [] ∨ (declaredGroups .video sdp).length = 1) ∧
    ∀ group ∈ declaredGroups .audio sdp, ∀ ssrc ∈ group.ssrcs.head?,
      ssrc ∉ declaredSsrcs .audio sdp

def ParseState.ssrcInfo (s : ParseState) : MediaType → List SsrcInfo
  | .audio => s.audioSsrcInfo
  | .video => s.videoSsrcInfo

/-- The media type of a state with a section is one of its contents. -/
def ParseState.Listed (s : ParseState) : Prop :=
  ∀ ty : MediaType, s.mediaType = ty.mid → ty ∈ s.contents

/-- What a line may do before its section reads it. -/
structure MediaStep (s : ParseState) (line : Text) (s' : ParseState) : Prop where
  mediaType : nextMediaType s.mediaType line = .ok s'.mediaType
  ssrcInfo : ∀ ty, s'.ssrcInfo ty = s.ssrcInfo ty
  groups : s'.videoSsrcGroups = s.videoSsrcGroups
  contents : ∀ ty ∈ s.contents, ty ∈ s'.contents
  listed : s.Listed → s'.Listed

lemma parseMediaLine_spec (h : parseMediaLine s line = .ok s') : MediaStep s line s' := by
  unfold parseMediaLine at h
  obtain ⟨mediaType, hnext, h⟩ := bind_eq_ok.mp h
  split at h
  · rename_i hbundle
    have hsame : mediaType = s.mediaType := by
      rw [nextMediaType, if_pos hbundle] at hnext
      exact (Except.ok.inj hnext).symm
    subst hsame
    split at h
    · cases h
      exact ⟨hnext, fun ty => by cases ty <;> rfl, rfl, fun _ hty => hty, id⟩
    · cases h
      exact ⟨hnext, fun ty => rfl, rfl, fun _ hty => hty, id⟩
  · split at h
    · split at h
      · rename_i haudio
        cases h
        refine ⟨hnext, fun ty => by cases ty <;> rfl, rfl, fun _ hty => List.mem_append_left _ hty,
          fun _ ty hty => ?_⟩
        rw [MediaType.mid_inj.mp (hty.symm.trans haudio)]
        exact List.mem_append_right _ (List.mem_singleton_self _)
      · split at h
        · rename_i hvideo
          cases h
          refine ⟨hnext, fun ty => by cases ty <;> rfl, rfl,
            fun _ hty => List.mem_append_left _ hty, fun _ ty hty => ?_⟩
          rw [MediaType.mid_inj.mp (hty.symm.trans hvideo)]
          exact List.mem_append_right _ (List.mem_singleton_self _)
        · rename_i haudio hvideo
          cases h
          refine ⟨hnext, fun ty => by cases ty <;> rfl, rfl, fun _ hty => hty, fun _ ty hty => ?_⟩
          cases ty with
          | audio => exact absurd hty haudio
          | video => exact absurd hty hvideo
    · rename_i hbundle hm
      have hsame : mediaType = s.mediaType := by
        rw [nextMediaType, if_neg hbundle, if_neg hm] at hnext
        exact (Except.ok.inj hnext).symm
      subst hsame
      cases h
      exact ⟨hnext, fun _ => rfl, rfl, fun _ hty => hty, id⟩

/-- What a line does to what the sections collect. -/
structure LineStep (s : ParseState) (line : Text) (s' : ParseState) : Prop where
  mediaType : nextMediaType s.mediaType line = .ok s'.mediaType
  ssrcInfo : ∀ ty, if s'.mediaType = ty.mid then
    parseSsrcInfo (s.ssrcInfo ty) line = .ok (s'.ssrcInfo ty) else s'.ssrcInfo ty = s.ssrcInfo ty
  groups : if s'.mediaType = MediaType.video.mid then
    parseSsrcGroupInfo s.videoSsrcGroups line = .ok s'.videoSsrcGroups
    else s'.videoSsrcGroups = s.videoSsrcGroups
  contents : ∀ ty ∈ s.contents, ty ∈ s'.contents
  listed : s.Listed → s'.Listed

lemma parseLine_spec (h : parseLine s line = .ok s') : LineStep s line s' := by
  unfold parseLine at h
  obtain ⟨t, ht, h⟩ := bind_eq_ok.mp h
  have hstep := parseMediaLine_spec ht
  split at h
  · rename_i haudio
    obtain ⟨td, -, h⟩ := bind_eq_ok.mp h
    obtain ⟨infos, hinfos, h⟩ := bind_eq_ok.mp h
    cases h
    refine ⟨hstep.mediaType, fun ty => ?_, ?_, hstep.contents, hstep.listed⟩
    · cases ty with
      | audio =>
        rw [if_pos haudio, ← hstep.ssrcInfo .audio]
        exact hinfos
      | video =>
        rw [if_neg (by rw [haudio]; decide)]
        exact hstep.ssrcInfo .video
    · rw [if_neg (by rw [haudio]; decide)]
      exact hstep.groups
  · rename_i haudio
    split at h
    · rename_i hvideo
      obtain ⟨td, -, h⟩ := bind_eq_ok.mp h
      obtain ⟨groups, hgroups, h⟩ := bind_eq_ok.mp h
      obtain ⟨infos, hinfos, h⟩ := bind_eq_ok.mp h
      cases h
      refine ⟨hstep.mediaType, fun ty => ?_, ?_, hstep.contents, hstep.listed⟩
      · cases ty with
        | audio =>
          rw [if_neg haudio]
          exact hstep.ssrcInfo .audio
        | video =>
          rw [if_pos hvideo, ← hstep.ssrcInfo .video]
          exact hinfos
      · rw [if_pos hvideo, ← hstep.groups]
        exact hgroups
    · rename_i hvideo
      cases h
      refine ⟨hstep.mediaType, fun ty => ?_, ?_, hstep.contents, hstep.listed⟩
      · cases ty with
        | audio =>
          rw [if_neg haudio]
          exact hstep.ssrcInfo .audio
        | video =>
          rw [if_neg hvideo]
          exact hstep.ssrcInfo .video
      · rw [if_neg hvideo]
        exact hstep.groups

/-- What all the lines do: each section is read on its own. -/
structure LinesRun (s : ParseState) (lines : List Text) (s' : ParseState) : Prop where
  ssrcInfo : ∀ ty : MediaType, (sectionLines ty.mid s.mediaType lines).foldlM parseSsrcInfo
    (s.ssrcInfo ty) = .ok (s'.ssrcInfo ty)
  groups : (sectionLines MediaType.video.mid s.mediaType lines).foldlM parseSsrcGroupInfo
    s.videoSsrcGroups = .ok s'.videoSsrcGroups
  contents : ∀ ty ∈ s.contents, ty ∈ s'.contents
  listed : s.Listed → ∀ ty : MediaType, sectionLines ty.mid s.mediaType lines ≠ [] →
    ty ∈ s'.contents

lemma parseLines_spec (h : lines.foldlM parseLine s = .ok s') : LinesRun s lines s' := by
  induction lines generalizing s with
  | nil =>
    cases h
    exact ⟨fun _ => rfl, rfl, fun _ hty => hty, fun _ _ hne => absurd rfl hne⟩
  | cons line lines ih =>
    rw [List.foldlM_cons] at h
    obtain ⟨t, ht, h⟩ := bind_eq_ok.mp h
    have hstep := parseLine_spec ht
    have hrun := ih h
    have hsection : ∀ mid, sectionLines mid s.mediaType (line :: lines) =
        if t.mediaType = mid then line :: sectionLines mid t.mediaType lines
        else sectionLines mid t.mediaType lines := by
      intro mid
      rw [sectionLines, hstep.mediaType]
    constructor
    · intro ty
      have hinfo := hstep.ssrcInfo ty
      rw [hsection]
      split
      · rename_i hty
        rw [if_pos hty] at hinfo
        rw [List.foldlM_cons, hinfo]
        exact hrun.ssrcInfo ty
      · rename_i hty
        rw [if_neg hty] at hinfo
        rw [← hinfo]
        exact hrun.ssrcInfo ty
    · have hgroups := hstep.groups
      rw [hsection]
      split
      · rename_i hty
        rw [if_pos hty] at hgroups
        rw [List.foldlM_cons, hgroups]
        exact hrun.groups
      · rename_i hty
        rw [if_neg hty] at hgroups
        rw [← hgroups]
        exact hrun.groups
    · exact fun ty hty => hrun.contents ty (hstep.contents ty hty)
    · intro hlisted ty hne
      rw [hsection] at hne
      split at hne
      · rename_i hty
        exact hrun.contents ty (hstep.listed hlisted ty hty)
      · exact hrun.listed (hstep.listed hlisted) ty hne

lemma setSsrcAttribute_ssrcId (attr value : Text) (info : SsrcInfo) :
    (setSsrcAttribute attr value info).ssrcId = info.ssrcId := by
  unfold setSsrcAttribute
  split
  · rfl
  · split
    · split <;> rfl
    · rfl

lemma parseSsrcInfo_spec (h : parseSsrcInfo infos line = .ok infos')
    (hnodup : (infos.map SsrcInfo.ssrcId).Nodup) :
    (infos'.map SsrcInfo.ssrcId).Nodup ∧ ∀ ssrc, ssrc ∈ infos'.map SsrcInfo.ssrcId ↔
      declaredSsrc line = some ssrc ∨ ssrc ∈ infos.map SsrcInfo.ssrcId := by
  unfold parseSsrcInfo at h
  obtain ⟨read, hread, h⟩ := bind_eq_ok.mp h
  cases read with
  | none =>
    cases h
    refine ⟨hnodup, fun ssrc => ?_⟩
    simp [declaredSsrc, hread]
  | some entry =>
    obtain ⟨ssrcId, attr, value⟩ := entry
    simp only at h
    split at h
    · cases h
    · cases h
      have hkey := setSsrcAttribute_ssrcId attr value
      have hnew : SsrcInfo.ssrcId { ssrcId := ssrcId } = ssrcId := rfl
      refine ⟨nodup_upsert hkey hnew hnodup, fun ssrc => ?_⟩
      rw [mem_map_key_upsert hkey hnew]
      simp [declaredSsrc, hread, eq_comm]

lemma parseSsrcInfos_spec (h : lines.foldlM parseSsrcInfo infos = .ok infos')
    (hnodup : (infos.map SsrcInfo.ssrcId).Nodup) :
    (infos'.map SsrcInfo.ssrcId).Nodup ∧ ∀ ssrc, ssrc ∈ infos'.map SsrcInfo.ssrcId ↔
      ssrc ∈ lines.filterMap declaredSsrc ∨ ssrc ∈ infos.map SsrcInfo.ssrcId := by
  induction lines generalizing infos with
  | nil =>
    cases h
    simp [hnodup]
  | cons line lines ih =>
    rw [List.foldlM_cons] at h
    obtain ⟨infos₁, h₁, h⟩ := bind_eq_ok.mp h
    obtain ⟨hnodup₁, hmem₁⟩ := parseSsrcInfo_spec h₁ hnodup
    obtain ⟨hnodup', hmem'⟩ := ih h hnodup₁
    refine ⟨hnodup', fun ssrc => ?_⟩
    rw [hmem', hmem₁, List.filterMap_cons]
    cases declaredSsrc line with
    | none => simp
    | some x =>
      simp only [Option.some.injEq, List.mem_cons]
      tauto

lemma readSsrcGroupLine_ssrcs (h : readSsrcGroupLine line = .ok (some group)) :
    group.ssrcs ≠ [] := by
  unfold readSsrcGroupLine at h
  split at h
  · obtain ⟨rest, -, h⟩ := bind_eq_ok.mp h
    split at h
    · simp only at h
      split at h
      · cases h
      · split at h
        · cases h
        · rename_i hssrcs
          cases h
          intro hnil
          simp only at hnil
          subst hnil
          simp [List.mapM_cons, Option.bind_eq_some_iff] at hssrcs
    · cases h
  · cases h

lemma parseSsrcGroupInfos_spec (h : lines.foldlM parseSsrcGroupInfo groups = .ok groups') :
    groups' = groups ++ lines.filterMap declaredGroup ∧
      ∀ group ∈ lines.filterMap declaredGroup, group.ssrcs ≠ [] := by
  induction lines generalizing groups with
  | nil =>
    cases h
    simp
  | cons line lines ih =>
    rw [List.foldlM_cons] at h
    obtain ⟨groups₁, h₁, h⟩ := bind_eq_ok.mp h
    unfold parseSsrcGroupInfo at h₁
    obtain ⟨read, hread, h₁⟩ := bind_eq_ok.mp h₁
    obtain ⟨hgroups, hne⟩ := ih h
    rw [List.filterMap_cons]
    cases read with
    | none =>
      cases h₁
      rw [declaredGroup, hread]
      exact ⟨hgroups, hne⟩
    | some group =>
      cases h₁
      rw [declaredGroup, hread]
      refine ⟨by rw [hgroups, List.append_assoc, List.singleton_append], fun g hg => ?_⟩
      rcases List.mem_cons.mp hg with rfl | hg
      · exact readSsrcGroupLine_ssrcs hread
      · exact hne g hg

/-- What the tracks of a section hold together. -/
structure TracksOf (infos : List SsrcInfo) (tracks : List StreamParams) : Prop where
  ids : (tracks.map StreamParams.id).Nodup
  ssrcs : (tracks.flatMap StreamParams.ssrcs).Perm (infos.map SsrcInfo.ssrcId)
  groups : ∀ track ∈ tracks, track.ssrcGroups = []

lemma TracksOf.addTrack (h : TracksOf infos tracks) (info : SsrcInfo) :
    TracksOf (infos ++ [info]) (addTrack tracks info) := by
  unfold Sdp.addTrack
  refine ⟨nodup_upsert (fun _ => rfl) rfl h.ids, ?_, ?_⟩
  · refine (flatMap_upsert_perm (b := info.ssrcId) rfl fun _ => rfl).trans ?_
    rw [List.map_append]
    exact (h.ssrcs.cons _).trans (List.perm_append_singleton _ _).symm
  · have hgroups := h.groups
    clear h
    induction tracks with
    | nil =>
      intro track htrack
      rw [upsert, List.mem_singleton] at htrack
      rw [htrack]
    | cons t tracks ih =>
      rw [List.forall_mem_cons] at hgroups
      rw [upsert]
      split
      · exact List.forall_mem_cons.mpr hgroups
      · exact List.forall_mem_cons.mpr ⟨hgroups.1, ih hgroups.2⟩

lemma tracksOf_createTrackFromSsrcInfo (infos : List SsrcInfo) :
    TracksOf infos (createTrackFromSsrcInfo infos) := by
  induction infos using List.reverseRecOn with
  | nil => exact ⟨List.nodup_nil, .nil, fun _ h => by cases h⟩
  | append_singleton infos info ih =>
    rw [createTrackFromSsrcInfo, List.foldl_append]
    exact ih.addTrack info

lemma map_attachGroup {β : Type} (f : StreamParams → β)
    (hf : ∀ track groups, f { track with ssrcGroups := groups } = f track)
    (tracks : List StreamParams) (group : SsrcGroup) :
    (attachGroup tracks group).map f = tracks.map f := by
  unfold attachGroup
  split
  · rfl
  · rw [List.map_map]
    refine List.map_congr_left fun track _ => ?_
    simp only [Function.comp]
    split
    · exact hf _ _
    · rfl

lemma flatMap_ssrcs_attachGroup (tracks : List StreamParams) (group : SsrcGroup) :
    (attachGroup tracks group).flatMap StreamParams.ssrcs = tracks.flatMap StreamParams.ssrcs := by
  rw [List.flatMap_def, List.flatMap_def, map_attachGroup _ fun _ _ => rfl]

/-- The loop over the groups adds every ssrc once for each group. -/
lemma count_foldl_addGroup (hgroups : ∀ group ∈ groups, group.ssrcs ≠ [])
    (tracks streams : List StreamParams) (ssrc : UInt32) :
    ((groups.foldl addGroup (tracks, streams)).2.flatMap StreamParams.ssrcs).count ssrc =
      (streams.flatMap StreamParams.ssrcs).count ssrc +
        groups.length * (tracks.flatMap StreamParams.ssrcs).count ssrc := by
  induction groups generalizing tracks streams with
  | nil => simp
  | cons group groups ih =>
    rw [List.forall_mem_cons] at hgroups
    rw [List.foldl_cons, addGroup, if_neg hgroups.1, ih hgroups.2, flatMap_ssrcs_attachGroup,
      List.flatMap_append, List.count_append, flatMap_ssrcs_attachGroup, List.length_cons,
      Nat.add_mul, Nat.one_mul]
    dsimp only
    omega

lemma count_videoStreams (hgroups : ∀ group ∈ groups, group.ssrcs ≠ []) (infos : List SsrcInfo)
    (ssrc : UInt32) :
    ((videoStreams infos groups).flatMap StreamParams.ssrcs).count ssrc =
      groups.length * (infos.map SsrcInfo.ssrcId).count ssrc := by
  have hperm := (tracksOf_createTrackFromSsrcInfo infos).ssrcs
  rw [videoStreams, count_foldl_addGroup hgroups, hperm.count_eq, List.flatMap_nil,
    List.count_nil, Nat.zero_add]

lemma videoStreams_nil (groups : List SsrcGroup) : videoStreams [] groups = [] := by
  have hnil : ∀ groups : List SsrcGroup, groups.foldl addGroup ([], []) = ([], []) := by
    intro groups
    induction groups with
    | nil => rfl
    | cons group groups ih =>
      rw [List.foldl_cons]
      have hattach : attachGroup [] group = [] := by
        unfold attachGroup
        split <;> rfl
      have hadd : addGroup ([], []) group = ([], []) := by
        unfold addGroup
        split
        · rfl
        · rw [hattach, List.nil_append]
      rw [hadd, ih]
  rw [videoStreams, createTrackFromSsrcInfo, List.foldl_nil, hnil]

lemma videoStreams_singleton (infos : List SsrcInfo) (hgroup : group.ssrcs ≠ []) :
    videoStreams infos [group] = attachGroup (createTrackFromSsrcInfo infos) group := by
  rw [videoStreams, List.foldl_cons, List.foldl_nil, addGroup, if_neg hgroup, List.nil_append]

lemma length_filter_hasSsrc_le (tracks : List StreamParams) (ssrc : UInt32) :
    (tracks.filter (·.hasSsrc ssrc)).length ≤
      (tracks.flatMap StreamParams.ssrcs).count ssrc := by
  induction tracks with
  | nil => simp
  | cons track tracks ih =>
    rw [List.filter_cons, List.flatMap_cons, List.count_append]
    split
    · rename_i hhas
      have hpos : 0 < track.ssrcs.count ssrc := by
        rw [List.count_pos_iff]
        exact List.contains_iff_mem.mp hhas
      rw [List.length_cons]
      omega
    · omega

lemma filter_attachGroup {rest : List UInt32} (hgroup : group.ssrcs = ssrc :: rest)
    (tracks : List StreamParams) :
    (attachGroup tracks group).filter (·.hasSsrc ssrc) =
      (tracks.filter (·.hasSsrc ssrc)).map fun track =>
        { track with ssrcGroups := track.ssrcGroups ++ [group] } := by
  unfold attachGroup
  rw [hgroup]
  induction tracks with
  | nil => rfl
  | cons track tracks ih =>
    simp only at ih
    simp only [List.map_cons, List.filter_cons]
    by_cases hhas : track.hasSsrc ssrc = true
    · have hhas' : StreamParams.hasSsrc
          { track with ssrcGroups := track.ssrcGroups ++ [group] } ssrc = true := hhas
      rw [if_pos hhas, if_pos hhas', if_pos hhas, ih, List.map_cons]
    · rw [if_neg hhas, if_neg hhas, ih, if_neg hhas]

/-- A group is attached to the one track that has its first ssrc. -/
lemma count_attachGroup {rest : List UInt32} (hgroup : group.ssrcs = ssrc :: rest)
    (htracks : TracksOf infos tracks) (hnodup : (infos.map SsrcInfo.ssrcId).Nodup)
    (hex : ∃ stream ∈ attachGroup tracks group, stream.hasSsrc ssrc = true) :
    (((attachGroup tracks group).filter (·.hasSsrc ssrc)).flatMap (·.ssrcGroups)).count group =
      1 := by
  have hle : (tracks.filter (·.hasSsrc ssrc)).length ≤ 1 := by
    refine (length_filter_hasSsrc_le tracks ssrc).trans ?_
    rw [htracks.ssrcs.count_eq]
    exact List.nodup_iff_count_le_one.mp hnodup ssrc
  have hpos : 0 < (tracks.filter (·.hasSsrc ssrc)).length := by
    obtain ⟨stream, hmem, hhas⟩ := hex
    have hfilter : stream ∈ (attachGroup tracks group).filter (·.hasSsrc ssrc) :=
      List.mem_filter.mpr ⟨hmem, hhas⟩
    rw [filter_attachGroup hgroup] at hfilter
    obtain ⟨track, htrack, -⟩ := List.mem_map.mp hfilter
    exact List.length_pos_of_mem htrack
  obtain ⟨track, htrack⟩ := List.length_eq_one_iff.mp (Nat.le_antisymm hle hpos)
  have hmem : track ∈ tracks :=
    List.mem_of_mem_filter (htrack ▸ List.mem_singleton_self track)
  rw [filter_attachGroup hgroup, htrack, List.map_singleton, List.flatMap_singleton,
    htracks.groups track hmem, List.nil_append, List.count_singleton_self]

/-- The content of a media type in the description. -/
def ParseState.content (s : ParseState) : MediaType → MediaContentDescription
  | .audio =>
    { type := .audio, direction := .inactive, streams := createTrackFromSsrcInfo s.audioSsrcInfo }
  | .video =>
    { type := .video, direction := .inactive
      streams := videoStreams s.videoSsrcInfo s.videoSsrcGroups }

lemma contents_description (s : ParseState) : s.description.contents = s.contents.map s.content :=
  List.map_congr_left fun ty _ => by cases ty <;> rfl

lemma types_description (s : ParseState) :
    s.description.contents.map MediaContentDescription.type = s.contents := by
  rw [contents_description, List.map_map]
  exact (List.map_congr_left fun ty _ => by cases ty <;> rfl).trans (List.map_id _)

lemma streamsOf_description (s : ParseState) (ty : MediaType) :
    s.description.streamsOf ty = if ty ∈ s.contents then (s.content ty).streams else [] := by
  have htype : ∀ ty, (s.content ty).type = ty := fun ty => by cases ty <;> rfl
  unfold SessionDescription.streamsOf SessionDescription.getContent
  rw [contents_description, List.find?_map]
  cases hfind : s.contents.find? ((fun c => decide (c.type.mid = ty.mid)) ∘ s.content) with
  | none =>
    have hnot : ty ∉ s.contents := by
      intro hty
      have hne := List.find?_eq_none.mp hfind ty hty
      simp [htype] at hne
    rw [if_neg hnot, Option.map_none]
  | some ty' =>
    have heq : ty' = ty := by
      have hmid := List.find?_some hfind
      simp only [Function.comp, htype, decide_eq_true_eq] at hmid
      exact MediaType.mid_inj.mp hmid
    subst heq
    rw [if_pos (List.mem_of_find?_eq_some hfind), Option.map_some]

/-- What the sections of an accepted text lead to. -/
structure Accepted (sdp : Text) (d : SessionDescription) (audio video : List SsrcInfo) : Prop where
  streams_audio : d.streamsOf .audio = createTrackFromSsrcInfo audio
  streams_video : d.streamsOf .video = videoStreams video (declaredGroups .video sdp)
  nodup_audio : (audio.map SsrcInfo.ssrcId).Nodup
  nodup_video : (video.map SsrcInfo.ssrcId).Nodup
  mem_audio : ∀ ssrc, ssrc ∈ audio.map SsrcInfo.ssrcId ↔ ssrc ∈ declaredSsrcs .audio sdp
  mem_video : ∀ ssrc, ssrc ∈ video.map SsrcInfo.ssrcId ↔ ssrc ∈ declaredSsrcs .video sdp
  groups : ∀ group ∈ declaredGroups .video sdp, group.ssrcs ≠ []

lemma accepted_of_setRemoteSdp (h : setRemoteSdp dtlsTransport sdp = .ok d) :
    ∃ audio video, Accepted sdp d audio video := by
  obtain ⟨s, hs, rfl⟩ := setRemoteSdp_spec h
  have hrun := parseLines_spec hs
  have hinfo : ∀ ty, ((s.ssrcInfo ty).map SsrcInfo.ssrcId).Nodup ∧
      ∀ ssrc, ssrc ∈ (s.ssrcInfo ty).map SsrcInfo.ssrcId ↔ ssrc ∈ declaredSsrcs ty sdp := by
    intro ty
    have hnil : ParseState.ssrcInfo {} ty = [] := by cases ty <;> rfl
    have hparse := hrun.ssrcInfo ty
    rw [hnil] at hparse
    obtain ⟨hnodup, hmem⟩ := parseSsrcInfos_spec hparse List.nodup_nil
    exact ⟨hnodup, fun ssrc => (hmem ssrc).trans (or_iff_left (List.not_mem_nil))⟩
  obtain ⟨hgroups, hne⟩ := parseSsrcGroupInfos_spec hrun.groups
  -- A section without an m-line is empty, and what it collects too.
  have hempty : ∀ ty, ty ∉ s.contents → s.ssrcInfo ty = [] := by
    intro ty hty
    have hlisted := hrun.listed (fun ty hty => by cases ty <;> revert hty <;> decide) ty
    have hsection : sectionOf ty sdp = [] := not_not.mp fun hne => hty (hlisted hne)
    have hparse := hrun.ssrcInfo ty
    rw [show sectionLines ty.mid (ParseState.mediaType {}) (sdpLines sdp) = [] from hsection] at hparse
    rw [← Except.ok.inj hparse]
    cases ty <;> rfl
  refine ⟨s.audioSsrcInfo, s.videoSsrcInfo, ?_, ?_, (hinfo .audio).1, (hinfo .video).1,
    (hinfo .audio).2, (hinfo .video).2, hne⟩
  · rw [streamsOf_description]
    split
    · rfl
    · rename_i hty
      rw [show s.audioSsrcInfo = [] from hempty .audio hty]
      rfl
  · have hgroups : s.videoSsrcGroups = declaredGroups .video sdp := hgroups
    rw [streamsOf_description, ← hgroups]
    split
    · rfl
    · rename_i hty
      rw [show s.videoSsrcInfo = [] from hempty .video hty, videoStreams_nil]

section accepted
variable {audio video : List SsrcInfo}

lemma Accepted.count_audio (h : Accepted sdp d audio video)
    (hssrc : ssrc ∈ declaredSsrcs .audio sdp) :
    ((d.streamsOf .audio).flatMap StreamParams.ssrcs).count ssrc = 1 := by
  rw [h.streams_audio, (tracksOf_createTrackFromSsrcInfo audio).ssrcs.count_eq]
  exact List.count_eq_one_of_mem h.nodup_audio ((h.mem_audio ssrc).mpr hssrc)

/-- In the video content a declared ssrc is as often as there are groups. -/
lemma Accepted.count_video (h : Accepted sdp d audio video)
    (hssrc : ssrc ∈ declaredSsrcs .video sdp) :
    ((d.streamsOf .video).flatMap StreamParams.ssrcs).count ssrc =
      (declaredGroups .video sdp).length := by
  rw [h.streams_video, count_videoStreams h.groups,
    List.count_eq_one_of_mem h.nodup_video ((h.mem_video ssrc).mpr hssrc), Nat.mul_one]

lemma Accepted.exists_audio (h : Accepted sdp d audio video)
    (hssrc : ssrc ∈ declaredSsrcs .audio sdp) :
    ∃ stream ∈ d.streamsOf .audio, stream.hasSsrc ssrc = true := by
  have hpos : 0 < ((d.streamsOf .audio).flatMap StreamParams.ssrcs).count ssrc := by
    rw [h.count_audio hssrc]
    exact Nat.one_pos
  obtain ⟨stream, hstream, hmem⟩ := List.mem_flatMap.mp (List.count_pos_iff.mp hpos)
  exact ⟨stream, hstream, List.contains_iff_mem.mpr hmem⟩

lemma Accepted.declared_of_audio (h : Accepted sdp d audio video)
    (hex : ∃ stream ∈ d.streamsOf .audio, stream.hasSsrc ssrc = true) :
    ssrc ∈ declaredSsrcs .audio sdp := by
  obtain ⟨stream, hstream, hhas⟩ := hex
  have hmem : ssrc ∈ (d.streamsOf .audio).flatMap StreamParams.ssrcs :=
    List.mem_flatMap.mpr ⟨stream, hstream, List.contains_iff_mem.mp hhas⟩
  rw [h.streams_audio, (tracksOf_createTrackFromSsrcInfo audio).ssrcs.mem_iff] at hmem
  exact (h.mem_audio ssrc).mp hmem

lemma Accepted.count_group_audio (h : Accepted sdp d audio video) (group : SsrcGroup)
    (ssrc : UInt32) :
    (((d.streamsOf .audio).filter (·.hasSsrc ssrc)).flatMap (·.ssrcGroups)).count group = 0 := by
  rw [List.count_eq_zero]
  intro hmem
  obtain ⟨stream, hstream, hgroup⟩ := List.mem_flatMap.mp hmem
  rw [h.streams_audio] at hstream
  rw [(tracksOf_createTrackFromSsrcInfo audio).groups stream (List.mem_of_mem_filter hstream)]
    at hgroup
  cases hgroup

lemma Accepted.streams_video_nil (h : Accepted sdp d audio video)
    (hnil : declaredSsrcs .video sdp = []) : d.streamsOf .video = [] := by
  have hvideo : video = [] := by
    have hmap : video.map SsrcInfo.ssrcId = [] := by
      refine List.eq_nil_iff_forall_not_mem.mpr fun ssrc hssrc => ?_
      have hdeclared := (h.mem_video ssrc).mp hssrc
      rw [hnil] at hdeclared
      cases hdeclared
    exact List.map_eq_nil_iff.mp hmap
  rw [h.streams_video, hvideo, videoStreams_nil]

lemma Accepted.streams_video_singleton (h : Accepted sdp d audio video)
    (hgroup : declaredGroups .video sdp = [group]) :
    d.streamsOf .video = attachGroup (createTrackFromSsrcInfo video) group := by
  rw [h.streams_video, hgroup, videoStreams_singleton]
  exact h.groups group (hgroup ▸ List.mem_singleton_self group)

lemma Accepted.accountable (h : Accepted sdp d audio video) (hs : StreamsAccounted sdp d) :
    Accountable sdp := by
  constructor
  · by_cases hnil : declaredSsrcs .video sdp = []
    · exact Or.inl hnil
    · obtain ⟨ssrc, hssrc⟩ := List.exists_mem_of_ne_nil _ hnil
      have hcount := hs.ssrcs .video ssrc hssrc
      rw [h.count_video hssrc] at hcount
      exact Or.inr hcount
  · intro group hgroup ssrc hhead hssrc
    have hcount := hs.groups .audio group hgroup ssrc hhead (h.exists_audio hssrc)
    rw [h.count_group_audio] at hcount
    exact List.count_eq_zero.mp hcount.symm hgroup

lemma Accepted.streamsAccounted (h : Accepted sdp d audio video) (ha : Accountable sdp) :
    StreamsAccounted sdp d := by
  constructor
  · intro ty ssrc hssrc
    cases ty with
    | audio => exact h.count_audio hssrc
    | video =>
      rw [h.count_video hssrc]
      exact ha.1.resolve_left (List.ne_nil_of_mem hssrc)
  · intro ty
    cases ty with
    | audio =>
      rw [h.streams_audio]
      exact (tracksOf_createTrackFromSsrcInfo audio).ids
    | video =>
      rcases ha.1 with hnil | hone
      · rw [h.streams_video_nil hnil]
        exact List.nodup_nil
      · obtain ⟨group, hgroup⟩ := List.length_eq_one_iff.mp hone
        rw [h.streams_video_singleton hgroup, map_attachGroup _ fun _ _ => rfl]
        exact (tracksOf_createTrackFromSsrcInfo video).ids
  · intro ty group hgroup ssrc hhead hex
    cases ty with
    | audio => exact absurd (h.declared_of_audio hex) (ha.2 group hgroup ssrc hhead)
    | video =>
      rcases ha.1 with hnil | hone
      · obtain ⟨stream, hstream, -⟩ := hex
        rw [h.streams_video_nil hnil] at hstream
        cases hstream
      · obtain ⟨group', heq⟩ := List.length_eq_one_iff.mp hone
        obtain rfl : group = group' := List.mem_singleton.mp (heq ▸ hgroup)
        obtain ⟨rest, hrest⟩ : ∃ rest, group.ssrcs = ssrc :: rest :=
          ⟨_, (List.eq_cons_of_mem_head? hhead)⟩
        rw [h.streams_video_singleton heq] at hex ⊢
        rw [count_attachGroup hrest (tracksOf_createTrackFromSsrcInfo video) h.nodup_video hex, heq,
          List.count_singleton_self]

end accepted

/-- The streams of an accepted text account for its ssrcs and groups precisely when the text is
accountable. -/
theorem streamsAccounted_iff (h : setRemoteSdp dtlsTransport sdp = .ok d) :
    StreamsAccounted sdp d ↔ Accountable sdp := by
  obtain ⟨audio, video, hacc⟩ := accepted_of_setRemoteSdp h
  exact ⟨hacc.accountable, hacc.streamsAccounted⟩

/-- An answer with one video track and the lines `more`. -/
def videoAnswer (more : String) : Text :=
  ("m=video 9 UDP/TLS/RTP/SAVPF 107\r\na=ice-ufrag:u\r\na=ice-pwd:p\r\n" ++
    "a=fingerprint:sha-1 00:11:22:33:44:55:66:77:88:99:AA:BB:CC:DD:EE:FF:00:11:22:33\r\n" ++
    more ++ "a=ssrc:1 msid:s t\r\na=ssrc:2 msid:s t\r\n").toList

/-- The description of `videoAnswer` with the given streams. -/
def videoDescription (streams : List StreamParams) : SessionDescription where
  contents := [{ type := .video, direction := .inactive, streams }]
  transportInfos :=
    [{}, { mid := MediaType.video.mid, iceUfrag := ['u'], icePwd := ['p']
           identityFingerprint := some ⟨"sha-1".toList,
            [0x00, 0x11, 0x22, 0x33, 0x44, 0x55, 0x66, 0x77, 0x88, 0x99, 0xAA, 0xBB, 0xCC, 0xDD,
              0xEE, 0xFF, 0x00, 0x11, 0x22, 0x33]⟩ }]

lemma setRemoteSdp_oneGroup :
    setRemoteSdp (fun _ => true) (videoAnswer "a=ssrc-group:FID 1 2\r\n") =
      .ok (videoDescription [{ id := ['t'], ssrcs := [1, 2], streamId := ['s']
                               ssrcGroups := [⟨"FID".toList, [1, 2]⟩] }]) := by
  rw [videoAnswer, String.toList_append, String.toList_append, String.toList_append,
    String.toList_ofList, String.toList_ofList, String.toList_ofList, String.toList_ofList]
  decide +kernel

lemma videoAnswer_noGroup :
    setRemoteSdp (fun _ => true) (videoAnswer "") = .ok (videoDescription []) ∧
      1 ∈ declaredSsrcs .video (videoAnswer "") := by
  rw [videoAnswer, String.toList_append, String.toList_append, String.toList_append,
    String.toList_ofList, String.toList_ofList, String.toList_ofList, String.toList_ofList]
  decide +kernel

/-- With one group the stream is there. -/
theorem oneGroup_streamsAccounted :
    StreamsAccounted (videoAnswer "a=ssrc-group:FID 1 2\r\n")
        (videoDescription [{ id := ['t'], ssrcs := [1, 2], streamId := ['s']
                             ssrcGroups := [⟨"FID".toList, [1, 2]⟩] }]) ↔
      Accountable (videoAnswer "a=ssrc-group:FID 1 2\r\n") :=
  streamsAccounted_iff setRemoteSdp_oneGroup

/-- Without a group the declared ssrcs are in no stream. -/
theorem noGroup_not_streamsAccounted :
    ¬ ∀ d, setRemoteSdp (fun _ => true) (videoAnswer "") = .ok d →
      StreamsAccounted (videoAnswer "") d := by
  intro h
  have hcount := (h _ videoAnswer_noGroup.1).ssrcs .video 1 videoAnswer_noGroup.2
  revert hcount
  decide +kernel

end XrtcServer.Sdp
