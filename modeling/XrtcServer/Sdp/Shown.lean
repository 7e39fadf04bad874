import XrtcServer.Sdp.Tracks

/-!
# What the streams show

The streams of a content do not show all that the lines of its section set. A track shows the ssrcs
with its id, and the cname and the stream of the last of them. A video section without a group shows
no ssrc, and a group shows at the track that has its first ssrc.
-/

namespace XrtcServer.Sdp
open XrtcServer.Base XrtcServer.Core

variable {infos infos' : List SsrcInfo} {groups groups' : List SsrcGroup}
  {tracks : List StreamParams} {g g' : SsrcGroup}

/-! ## Tracks -/

/-- The entries with a track id. -/
def ofTrack (t : Text) (infos : List SsrcInfo) : List SsrcInfo := infos.filter (·.trackId = t)

/-- The tracks are the same, list the same ssrcs, and end with the same cname and stream. -/
structure TracksAlike (infos infos' : List SsrcInfo) : Prop where
  tracks : firsts (infos.map SsrcInfo.trackId) = firsts (infos'.map SsrcInfo.trackId)
  ssrcs : ∀ t, (ofTrack t infos).map SsrcInfo.ssrcId = (ofTrack t infos').map SsrcInfo.ssrcId
  cname : ∀ t, (ofTrack t infos).getLast?.map SsrcInfo.cname =
    (ofTrack t infos').getLast?.map SsrcInfo.cname
  streamId : ∀ t, (ofTrack t infos).getLast?.map SsrcInfo.streamId =
    (ofTrack t infos').getLast?.map SsrcInfo.streamId

lemma TracksAlike.refl : TracksAlike infos infos :=
  ⟨rfl, fun _ => rfl, fun _ => rfl, fun _ => rfl⟩

/-- The track of some entries. -/
def trackFrom (t : Text) (infos : List SsrcInfo) : StreamParams where
  id := t
  ssrcs := infos.map SsrcInfo.ssrcId
  cname := (infos.getLast?.map SsrcInfo.cname).getD []
  streamId := (infos.getLast?.map SsrcInfo.streamId).getD []

/-- The entries are grouped by their track ids. -/
lemma createTrackFromSsrcInfo_eq (infos : List SsrcInfo) :
    createTrackFromSsrcInfo infos =
      (firsts (infos.map SsrcInfo.trackId)).map fun t => trackFrom t (ofTrack t infos) := by
  have hgroup := @foldl_upsert _ _ _ _ StreamParams.id SsrcInfo.trackId (fun t => { id := t })
    (fun info track => { track with
      cname := info.cname, streamId := info.streamId, ssrcs := track.ssrcs ++ [info.ssrcId] })
    (fun _ => rfl) (fun _ _ => rfl) infos
  refine hgroup.trans (List.map_congr_left fun t _ => ?_)
  change (ofTrack t infos).foldl _ _ = _
  induction ofTrack t infos using List.reverseRecOn with
  | nil => rfl
  | append_singleton es info ih =>
    rw [List.foldl_append, ih, List.foldl_cons, List.foldl_nil]
    simp [trackFrom]

lemma trackFrom_eq_iff {t : Text} : trackFrom t infos = trackFrom t infos' ↔
    infos.map SsrcInfo.ssrcId = infos'.map SsrcInfo.ssrcId ∧
      infos.getLast?.map SsrcInfo.cname = infos'.getLast?.map SsrcInfo.cname ∧
      infos.getLast?.map SsrcInfo.streamId = infos'.getLast?.map SsrcInfo.streamId := by
  rw [trackFrom, trackFrom, StreamParams.mk.injEq]
  constructor
  · rintro ⟨-, hssrcs, -, hcname, hstreamId⟩
    have hlength := congrArg List.length hssrcs
    rw [List.length_map, List.length_map] at hlength
    refine ⟨hssrcs, ?_⟩
    cases hlast : infos.getLast? with
    | none =>
      rw [List.getLast?_eq_none_iff] at hlast
      have hnil : infos' = [] := List.eq_nil_of_length_eq_zero (by rw [← hlength, hlast]; rfl)
      rw [hnil]
      exact ⟨rfl, rfl⟩
    | some info =>
      cases hlast' : infos'.getLast? with
      | none =>
        rw [List.getLast?_eq_none_iff] at hlast'
        have hnil : infos = [] := List.eq_nil_of_length_eq_zero (by rw [hlength, hlast']; rfl)
        rw [hnil] at hlast
        cases hlast
      | some info' =>
        rw [hlast, hlast'] at hcname hstreamId
        exact ⟨congrArg some hcname, congrArg some hstreamId⟩
  · rintro ⟨hssrcs, hcname, hstreamId⟩
    exact ⟨rfl, hssrcs, rfl, by rw [hcname], by rw [hstreamId]⟩

lemma ofTrack_eq_nil {t : Text} (h : t ∉ firsts (infos.map SsrcInfo.trackId)) :
    ofTrack t infos = [] := by
  refine List.filter_eq_nil_iff.mpr fun info hinfo ht => h (mem_firsts.mpr ?_)
  exact List.mem_map.mpr ⟨info, hinfo, of_decide_eq_true ht⟩

/-- This is what the tracks show of the entries. -/
theorem createTrackFromSsrcInfo_eq_iff :
    createTrackFromSsrcInfo infos = createTrackFromSsrcInfo infos' ↔ TracksAlike infos infos' := by
  rw [createTrackFromSsrcInfo_eq, createTrackFromSsrcInfo_eq,
    @map_eq_map_iff_of_key _ _ StreamParams.id _ _ _ _ (fun _ => rfl) fun _ => rfl]
  constructor
  · rintro ⟨htracks, hfrom⟩
    have hall : ∀ t, trackFrom t (ofTrack t infos) = trackFrom t (ofTrack t infos') := by
      intro t
      by_cases ht : t ∈ firsts (infos.map SsrcInfo.trackId)
      · exact hfrom t ht
      · rw [ofTrack_eq_nil ht, ofTrack_eq_nil (htracks ▸ ht)]
    exact ⟨htracks, fun t => (trackFrom_eq_iff.mp (hall t)).1,
      fun t => (trackFrom_eq_iff.mp (hall t)).2.1, fun t => (trackFrom_eq_iff.mp (hall t)).2.2⟩
  · intro h
    exact ⟨h.tracks, fun t _ => trackFrom_eq_iff.mpr ⟨h.ssrcs t, h.cname t, h.streamId t⟩⟩

lemma createTrackFromSsrcInfo_ne_nil (h : infos ≠ []) : createTrackFromSsrcInfo infos ≠ [] := by
  obtain ⟨info, rest, rfl⟩ := List.exists_cons_of_ne_nil h
  rw [createTrackFromSsrcInfo_eq]
  exact List.ne_nil_of_mem (List.mem_map_of_mem (mem_firsts.mpr List.mem_cons_self))

/-! ## Groups -/

/-- The group, where one of the ssrcs is its first. -/
def shownGroup (ssrcs : List UInt32) (group : SsrcGroup) : Option SsrcGroup :=
  if group.ssrcs.head?.any (· ∈ ssrcs) then some group else none

lemma attachGroup_eq_self (h : shownGroup (tracks.flatMap StreamParams.ssrcs) g = none) :
    attachGroup tracks g = tracks := by
  unfold attachGroup
  cases hssrcs : g.ssrcs with
  | nil => rfl
  | cons ssrc rest =>
    dsimp only
    refine (List.map_congr_left fun track htrack => ?_).trans (List.map_id _)
    split
    · rename_i hhas
      have hmem : ssrc ∈ tracks.flatMap StreamParams.ssrcs :=
        List.mem_flatMap.mpr ⟨track, htrack, List.contains_iff_mem.mp hhas⟩
      have hany : g.ssrcs.head?.any (· ∈ tracks.flatMap StreamParams.ssrcs) = true := by
        rw [hssrcs]
        exact decide_eq_true hmem
      rw [shownGroup, if_pos hany] at h
      cases h
    · rfl

/-- A group shows at a track that has its first ssrc. -/
lemma attachGroup_injective {ssrc : UInt32} {rest : List UInt32} {track : StreamParams}
    (htrack : track ∈ tracks) (hssrc : ssrc ∈ track.ssrcs) (hgroup : g.ssrcs = ssrc :: rest)
    (h : attachGroup tracks g = attachGroup tracks g') : g = g' := by
  have hhas : track.hasSsrc ssrc = true := List.contains_iff_mem.mpr hssrc
  rw [attachGroup, hgroup] at h
  unfold attachGroup at h
  cases hgroup' : g'.ssrcs with
  | nil =>
    rw [hgroup'] at h
    have hat := List.map_eq_map_iff.mp (h.trans (List.map_id tracks).symm) track htrack
    rw [if_pos hhas] at hat
    exact absurd (congrArg StreamParams.ssrcGroups hat) (by simp)
  | cons ssrc' rest' =>
    rw [hgroup'] at h
    have hat := List.map_eq_map_iff.mp h track htrack
    rw [if_pos hhas] at hat
    have hgroups := congrArg StreamParams.ssrcGroups hat
    split at hgroups
    · simpa using hgroups
    · exact absurd hgroups (by simp)

lemma attachGroup_injective_of_shown
    (hshown : shownGroup (tracks.flatMap StreamParams.ssrcs) g = some g)
    (h : attachGroup tracks g = attachGroup tracks g') : g = g' := by
  rw [shownGroup] at hshown
  split at hshown
  · rename_i hany
    obtain ⟨ssrc, hhead, hmem⟩ := Option.any_eq_true _ _ |>.mp hany
    obtain ⟨track, htrack, hssrc⟩ := List.mem_flatMap.mp (of_decide_eq_true hmem)
    exact attachGroup_injective htrack hssrc (List.eq_cons_of_mem_head? hhead) h
  · cases hshown

lemma shownGroup_cases (ssrcs : List UInt32) (group : SsrcGroup) :
    shownGroup ssrcs group = none ∨ shownGroup ssrcs group = some group := by
  unfold shownGroup
  split
  · exact .inr rfl
  · exact .inl rfl

lemma attachGroup_eq_iff : attachGroup tracks g = attachGroup tracks g' ↔
    shownGroup (tracks.flatMap StreamParams.ssrcs) g =
      shownGroup (tracks.flatMap StreamParams.ssrcs) g' := by
  constructor
  · intro h
    rcases shownGroup_cases (tracks.flatMap StreamParams.ssrcs) g with hg | hg
    · rcases shownGroup_cases (tracks.flatMap StreamParams.ssrcs) g' with hg' | hg'
      · rw [hg, hg']
      · rw [attachGroup_injective_of_shown hg' h.symm]
    · rw [attachGroup_injective_of_shown hg h]
  · intro h
    rcases shownGroup_cases (tracks.flatMap StreamParams.ssrcs) g with hg | hg
    · rw [attachGroup_eq_self hg, attachGroup_eq_self (h.symm.trans hg)]
    · rcases shownGroup_cases (tracks.flatMap StreamParams.ssrcs) g' with hg' | hg'
      · rw [hg, hg'] at h
        cases h
      · rw [hg, hg', Option.some.injEq] at h
        rw [h]

/-! ## Video streams -/

/-- The streams that the loop over the groups makes of the tracks. -/
def groupStreams (tracks : List StreamParams) (groups : List SsrcGroup) : List StreamParams :=
  (groups.foldl addGroup (tracks, [])).2

lemma videoStreams_eq (infos : List SsrcInfo) (groups : List SsrcGroup) :
    videoStreams infos groups = groupStreams (createTrackFromSsrcInfo infos) groups := rfl

lemma foldl_addGroup_snd (groups : List SsrcGroup) (tracks streams : List StreamParams) :
    (groups.foldl addGroup (tracks, streams)).2 = streams ++ groupStreams tracks groups := by
  induction groups generalizing tracks streams with
  | nil => exact (List.append_nil _).symm
  | cons group groups ih =>
    rw [groupStreams, List.foldl_cons, List.foldl_cons, addGroup, addGroup]
    split
    · exact ih tracks streams
    · rw [List.nil_append, ih, ih, List.append_assoc]

/-- The tracks are added with the first group, and then again. -/
lemma groupStreams_cons (hgroup : g.ssrcs ≠ []) :
    groupStreams tracks (g :: groups) =
      attachGroup tracks g ++ groupStreams (attachGroup tracks g) groups := by
  rw [groupStreams, List.foldl_cons, addGroup, if_neg hgroup, List.nil_append, foldl_addGroup_snd]

@[simp] lemma length_attachGroup : (attachGroup tracks g).length = tracks.length := by
  have hlength := congrArg List.length (map_attachGroup StreamParams.id (fun _ _ => rfl) tracks g)
  rwa [List.length_map, List.length_map] at hlength

lemma length_groupStreams (hgroups : ∀ g ∈ groups, g.ssrcs ≠ []) (tracks : List StreamParams) :
    (groupStreams tracks groups).length = groups.length * tracks.length := by
  induction groups generalizing tracks with
  | nil => simp [groupStreams]
  | cons g groups ih =>
    rw [List.forall_mem_cons] at hgroups
    rw [groupStreams_cons hgroups.1, List.length_append, ih hgroups.2, length_attachGroup,
      List.length_cons, Nat.add_mul, Nat.one_mul, Nat.add_comm]

lemma attachGroup_ne_nil (h : tracks ≠ []) (g : SsrcGroup) : attachGroup tracks g ≠ [] := by
  intro hnil
  have hlength := congrArg List.length hnil
  rw [length_attachGroup] at hlength
  exact h (List.eq_nil_of_length_eq_zero hlength)

lemma groupStreams_cons_ne_nil (h : tracks ≠ []) (hgroup : g.ssrcs ≠ []) :
    groupStreams tracks (g :: groups) ≠ [] := by
  rw [groupStreams_cons hgroup]
  exact List.append_ne_nil_of_left_ne_nil (attachGroup_ne_nil h g) _

/-- The same tracks show the same of two lists of groups. -/
lemma groupStreams_eq_iff (htracks : tracks ≠ []) (hgroups : ∀ g ∈ groups, g.ssrcs ≠ [])
    (hgroups' : ∀ g ∈ groups', g.ssrcs ≠ []) :
    groupStreams tracks groups = groupStreams tracks groups' ↔
      groups.map (shownGroup (tracks.flatMap StreamParams.ssrcs)) =
        groups'.map (shownGroup (tracks.flatMap StreamParams.ssrcs)) := by
  induction groups generalizing tracks groups' with
  | nil =>
    cases groups' with
    | nil => exact iff_of_true rfl rfl
    | cons g' groups' =>
      rw [List.forall_mem_cons] at hgroups'
      exact iff_of_false (fun h => groupStreams_cons_ne_nil htracks hgroups'.1 h.symm) nofun
  | cons g groups ih =>
    rw [List.forall_mem_cons] at hgroups
    cases groups' with
    | nil => exact iff_of_false (groupStreams_cons_ne_nil htracks hgroups.1) nofun
    | cons g' groups' =>
      rw [List.forall_mem_cons] at hgroups'
      have hrest := ih (attachGroup_ne_nil htracks g) hgroups.2 hgroups'.2
      rw [flatMap_ssrcs_attachGroup tracks g] at hrest
      rw [groupStreams_cons hgroups.1, groupStreams_cons hgroups'.1, List.map_cons, List.map_cons,
        List.cons.injEq, ← attachGroup_eq_iff]
      -- With the first group the two lists of tracks are the same from then on.
      constructor
      · intro h
        obtain ⟨hsame, h⟩ := List.append_inj h (by simp)
        rw [← hsame] at h
        exact ⟨hsame, hrest.mp h⟩
      · rintro ⟨hsame, h⟩
        rw [← hsame, hrest.mpr h]

/-- Neither shows a stream, or the tracks and the groups show alike. -/
def VideoAlike (infos : List SsrcInfo) (groups : List SsrcGroup) (infos' : List SsrcInfo)
    (groups' : List SsrcGroup) : Prop :=
  (infos = [] ∨ groups = []) ∧ (infos' = [] ∨ groups' = []) ∨
    TracksAlike infos infos' ∧ groups.map (shownGroup (infos.map SsrcInfo.ssrcId)) =
      groups'.map (shownGroup (infos'.map SsrcInfo.ssrcId))

lemma VideoAlike.refl : VideoAlike infos groups infos groups := .inr ⟨.refl, rfl⟩

lemma shownGroup_congr {ssrcs ssrcs' : List UInt32} (h : ∀ x, x ∈ ssrcs ↔ x ∈ ssrcs') :
    shownGroup ssrcs = shownGroup ssrcs' := by
  funext group
  simp only [shownGroup, h]

lemma shownGroup_tracks (infos : List SsrcInfo) :
    shownGroup ((createTrackFromSsrcInfo infos).flatMap StreamParams.ssrcs) =
      shownGroup (infos.map SsrcInfo.ssrcId) :=
  shownGroup_congr fun _ => (tracksOf_createTrackFromSsrcInfo infos).ssrcs.mem_iff

lemma videoStreams_eq_nil_iff (hgroups : ∀ g ∈ groups, g.ssrcs ≠ []) :
    videoStreams infos groups = [] ↔ infos = [] ∨ groups = [] := by
  have hlength := length_groupStreams hgroups (createTrackFromSsrcInfo infos)
  have hzero : videoStreams infos groups = [] ↔
      groups.length * (createTrackFromSsrcInfo infos).length = 0 := by
    rw [← hlength]
    exact List.length_eq_zero_iff.symm
  rw [hzero, Nat.mul_eq_zero, List.length_eq_zero_iff, List.length_eq_zero_iff, or_comm]
  refine or_congr ⟨fun h => ?_, fun h => by rw [h]; rfl⟩ Iff.rfl
  by_contra hne
  exact createTrackFromSsrcInfo_ne_nil hne h

/-- Streams that are the same were made of the same tracks. -/
lemma tracks_eq_of_videoStreams_eq (hgroups : ∀ g ∈ groups, g.ssrcs ≠ [])
    (hgroups' : ∀ g ∈ groups', g.ssrcs ≠ []) (hnodup : (infos.map SsrcInfo.ssrcId).Nodup)
    (hnodup' : (infos'.map SsrcInfo.ssrcId).Nodup) (hshown : ¬ (infos = [] ∨ groups = []))
    (h : videoStreams infos groups = videoStreams infos' groups') :
    createTrackFromSsrcInfo infos = createTrackFromSsrcInfo infos' := by
  obtain ⟨hinfos, hne⟩ := not_or.mp hshown
  have hshown' := mt (videoStreams_eq_nil_iff hgroups').mpr
    (h ▸ mt (videoStreams_eq_nil_iff hgroups).mp hshown)
  obtain ⟨-, hne'⟩ := not_or.mp hshown'
  -- Each ssrc is once in the tracks, and so once for each group in the streams.
  have hlength : groups.length = groups'.length := by
    obtain ⟨info, rest, rfl⟩ := List.exists_cons_of_ne_nil hinfos
    have hcount := count_videoStreams hgroups (info :: rest) info.ssrcId
    rw [h, count_videoStreams hgroups', List.count_eq_one_of_mem hnodup List.mem_cons_self,
      Nat.mul_one] at hcount
    have hle := List.nodup_iff_count_le_one.mp hnodup' info.ssrcId
    have hpos := List.length_pos_iff.mpr hne
    rcases Nat.le_one_iff_eq_zero_or_eq_one.mp hle with hcount' | hcount'
    · rw [hcount', Nat.mul_zero] at hcount
      omega
    · rw [hcount', Nat.mul_one] at hcount
      exact hcount.symm
  have htracks : (createTrackFromSsrcInfo infos).length =
      (createTrackFromSsrcInfo infos').length := by
    have hsum := congrArg List.length h
    have hstreams := length_groupStreams hgroups (createTrackFromSsrcInfo infos)
    have hstreams' := length_groupStreams hgroups' (createTrackFromSsrcInfo infos')
    refine Nat.eq_of_mul_eq_mul_left (List.length_pos_iff.mpr hne) ?_
    rw [← hstreams, hlength, ← hstreams']
    exact hsum
  obtain ⟨g, rest, rfl⟩ := List.exists_cons_of_ne_nil hne
  obtain ⟨g', rest', rfl⟩ := List.exists_cons_of_ne_nil hne'
  rw [List.forall_mem_cons] at hgroups hgroups'
  rw [videoStreams_eq, videoStreams_eq, groupStreams_cons hgroups.1,
    groupStreams_cons hgroups'.1] at h
  obtain ⟨hfirst, -⟩ := List.append_inj h (by simp [htracks])
  have hplain : ∀ infos g, (attachGroup (createTrackFromSsrcInfo infos) g).map
      (fun track => { track with ssrcGroups := [] }) = createTrackFromSsrcInfo infos := by
    intro infos g
    rw [map_attachGroup _ fun _ _ => rfl]
    refine (List.map_congr_left fun track htrack => ?_).trans (List.map_id _)
    have hnone := (tracksOf_createTrackFromSsrcInfo infos).groups track htrack
    rw [← hnone]
    rfl
  rw [← hplain infos g, hfirst, hplain]

/-- This is what the streams of the video content show. -/
theorem videoStreams_eq_iff (hgroups : ∀ g ∈ groups, g.ssrcs ≠ [])
    (hgroups' : ∀ g ∈ groups', g.ssrcs ≠ []) (hnodup : (infos.map SsrcInfo.ssrcId).Nodup)
    (hnodup' : (infos'.map SsrcInfo.ssrcId).Nodup) :
    videoStreams infos groups = videoStreams infos' groups' ↔
      VideoAlike infos groups infos' groups' := by
  by_cases hshown : infos = [] ∨ groups = []
  · have hnil := (videoStreams_eq_nil_iff hgroups).mpr hshown
    rw [hnil, eq_comm, videoStreams_eq_nil_iff hgroups']
    refine ⟨fun h => .inl ⟨hshown, h⟩, ?_⟩
    rintro (⟨-, h⟩ | ⟨htracks, hgroups⟩)
    · exact h
    · rcases hshown with rfl | rfl
      · refine .inl (by_contra fun hne => createTrackFromSsrcInfo_ne_nil hne ?_)
        exact (createTrackFromSsrcInfo_eq_iff.mpr htracks).symm
      · exact .inr (List.map_eq_nil_iff.mp hgroups.symm)
  · have hinfos := (not_or.mp hshown).1
    constructor
    · intro h
      have hsame := tracks_eq_of_videoStreams_eq hgroups hgroups' hnodup hnodup' hshown h
      refine .inr ⟨createTrackFromSsrcInfo_eq_iff.mp hsame, ?_⟩
      rw [← shownGroup_tracks, ← shownGroup_tracks, ← hsame]
      refine (groupStreams_eq_iff (createTrackFromSsrcInfo_ne_nil hinfos) hgroups hgroups').mp ?_
      rwa [videoStreams_eq, videoStreams_eq, ← hsame] at h
    · rintro (⟨h, -⟩ | ⟨htracks, hmap⟩)
      · exact absurd h hshown
      · have hsame := createTrackFromSsrcInfo_eq_iff.mpr htracks
        rw [← shownGroup_tracks, ← shownGroup_tracks, ← hsame] at hmap
        have h := (groupStreams_eq_iff (createTrackFromSsrcInfo_ne_nil hinfos) hgroups
          hgroups').mpr hmap
        rwa [videoStreams_eq, videoStreams_eq, ← hsame]

end XrtcServer.Sdp
