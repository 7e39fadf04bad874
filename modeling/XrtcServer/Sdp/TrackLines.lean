import Mathlib.Data.List.Pairwise
import XrtcServer.Sdp.Probes
import XrtcServer.Sdp.RoundTrip
import XrtcServer.Sdp.Tracks

/-!
# Tracks on printed lines

The streams of a content are printed as ssrc lines. A peer that reads these lines as the server reads
those of an answer finds the tracks again, however often the content has them.
-/

namespace XrtcServer.Sdp
open XrtcServer.Base XrtcServer.Core

variable {l line value : Text} {ssrc : UInt32} {track : StreamParams} {info : SsrcInfo}
  {infos infos' : List SsrcInfo} {tracks : List StreamParams} {lines : List Text}

/-- The tracks that a peer finds on the lines of a section. -/
def readTracks (lines : List Text) : Except SdpError (List StreamParams) :=
  (lines.foldlM parseSsrcInfo []).map createTrackFromSsrcInfo

/-- What a reader finds of an attribute. The colons before a value are not a part of it. -/
def ValueText (t : Text) : Prop := t.head? ≠ some ':' ∧ '\n' ∉ t

/-- An entry whose fields come back when they are printed and read. -/
structure SsrcInfo.Readable (info : SsrcInfo) : Prop where
  cname : ValueText info.cname
  streamId : ValueText info.streamId ∧ ' ' ∉ info.streamId
  trackId : ' ' ∉ info.trackId ∧ '\n' ∉ info.trackId

structure StreamParams.Readable (track : StreamParams) : Prop where
  cname : ValueText track.cname
  streamId : ValueText track.streamId ∧ ' ' ∉ track.streamId
  id : ' ' ∉ track.id ∧ '\n' ∉ track.id

/-- A group whose line is no ssrc line. -/
def SsrcGroup.Readable (group : SsrcGroup) : Prop :=
  ':' ∉ group.semantics ∧ '\n' ∉ group.semantics

/-! ## Printing and reading one ssrc -/

/-- The lines of an ssrc of a track. -/
def ssrcLines (track : StreamParams) (ssrc : UInt32) : List Text :=
  [addSsrcLine ssrc "cname".toList track.cname,
    addSsrcLine ssrc "msid".toList (track.streamId ++ " ".toList ++ track.id),
    addSsrcLine ssrc "mslabel".toList track.streamId, addSsrcLine ssrc "lable".toList track.id]

/-- The line of a group. -/
def groupLine (group : SsrcGroup) : Text :=
  "a=ssrc-group".toList ++ group.semantics ++
    group.ssrcs.flatMap fun ssrc => " ".toList ++ decimal ssrc.toNat

lemma buildSsrc_eq (content : MediaContentDescription) :
    buildSsrc content = content.streams.flatMap fun track =>
      (track.ssrcGroups.filter (·.ssrcs ≠ [])).map groupLine ++
        track.ssrcs.flatMap (ssrcLines track) := rfl

def SsrcInfo.setTrack (track : StreamParams) (info : SsrcInfo) : SsrcInfo :=
  { info with cname := track.cname, streamId := track.streamId, trackId := track.id }

lemma dropWhile_colon (h : value.head? ≠ some ':') : value.dropWhile (· = ':') = value := by
  cases value with
  | nil => rfl
  | cons c value =>
    have hc : c ≠ ':' := fun hc => h (by rw [hc, List.head?_cons])
    exact List.dropWhile_cons_of_neg (by simpa using hc)

lemma substr_append (l rest : Text) : substr (l ++ rest) l.length = .ok rest := by
  rw [substr, if_pos (by simp), List.drop_left]

/-- A value is read without the colons that it starts with. -/
lemma readSsrcLine_dropWhile {attr : Text} (ssrc : UInt32) (value : Text)
    (hspace : attr.head? ≠ some ' ') (hcolon : ':' ∉ attr) (hne : attr ≠ []) :
    readSsrcLine (addSsrcLine ssrc attr value) =
      .ok (some (ssrc, attr, value.dropWhile (· = ':'))) := by
  have hline : addSsrcLine ssrc attr value = ['a', '='] ++
      (['s', 's', 'r', 'c', ':'] ++ decimal ssrc.toNat ++ ' ' :: (attr ++ ':' :: value)) := by
    rw [addSsrcLine_eq]
    generalize decimal ssrc.toNat = digits
    simp
  have hcontains : contains (addSsrcLine ssrc attr value) "a=ssrc:".toList = true := by
    rw [contains_iff, addSsrcLine_eq]
    exact (List.prefix_append ..).isInfix
  have hfield : ' ' ∉ ['s', 's', 'r', 'c', ':'] ++ decimal ssrc.toNat := by
    rw [List.mem_append, not_or]
    exact ⟨by decide, fun hc => absurd (isDigit_of_mem_decimal hc) (by decide)⟩
  have hid : substr (['s', 's', 'r', 'c', ':'] ++ decimal ssrc.toNat) 5 =
      .ok (decimal ssrc.toNat) := substr_append ['s', 's', 'r', 'c', ':'] _
  have hrest : (attr ++ ':' :: value).dropWhile (· = ' ') = attr ++ ':' :: value := by
    obtain ⟨c, attr, rfl⟩ := List.exists_cons_of_ne_nil hne
    have hc : c ≠ ' ' := fun hc => hspace (by rw [hc, List.head?_cons])
    exact List.dropWhile_cons_of_neg (by simpa using hc)
  have hsubstr : substr (addSsrcLine ssrc attr value) 2 =
      .ok (['s', 's', 'r', 'c', ':'] ++ decimal ssrc.toNat ++ ' ' :: (attr ++ ':' :: value)) := by
    rw [hline]
    exact substr_append ['a', '='] (['s', 's', 'r', 'c', ':'] ++ decimal ssrc.toNat ++ _)
  rw [readSsrcLine, if_pos hcontains, hsubstr]
  simp only [bind, Except.bind, tokenizeFirst_append hfield, hrest, hid, fromString_decimal,
    tokenizeFirst_append hcolon]
  rfl

/-- One attribute of an ssrc. -/
lemma parseSsrcInfo_addSsrcLine {attr : Text} (ssrc : UInt32) (value : Text)
    (hattr : attr.head? ≠ some ' ' ∧ ':' ∉ attr ∧ attr ≠ [])
    (hmsid : attr = "msid".toList → (split ' ' (value.dropWhile (· = ':'))).length ≤ 2) :
    parseSsrcInfo infos (addSsrcLine ssrc attr value) =
      .ok (upsert SsrcInfo.ssrcId ssrc { ssrcId := ssrc }
        (setSsrcAttribute attr (value.dropWhile (· = ':'))) infos) := by
  have hok : ¬ (attr = "msid".toList ∧ 2 < (split ' ' (value.dropWhile (· = ':'))).length) := by
    rintro ⟨h, hlength⟩
    exact absurd (hmsid h) (by omega)
  rw [parseSsrcInfo, readSsrcLine_dropWhile ssrc value hattr.1 hattr.2.1 hattr.2.2]
  simp only [bind, Except.bind, if_neg hok]
  rfl

/-- An edit of the entry of an ssrc. -/
def edit (ssrc : UInt32) (f : SsrcInfo → SsrcInfo) (infos : List SsrcInfo) : List SsrcInfo :=
  upsert SsrcInfo.ssrcId ssrc { ssrcId := ssrc } f infos

lemma edit_edit {f g : SsrcInfo → SsrcInfo} (hf : ∀ info, (f info).ssrcId = info.ssrcId)
    (ssrc : UInt32) (infos : List SsrcInfo) :
    edit ssrc g (edit ssrc f infos) = edit ssrc (g ∘ f) infos := upsert_upsert hf rfl

section attributes
variable (ssrc : UInt32) (infos : List SsrcInfo)

lemma parseSsrcInfo_cname (h : ValueText value) :
    parseSsrcInfo infos (addSsrcLine ssrc "cname".toList value) =
      .ok (edit ssrc (fun info => { info with cname := value }) infos) := by
  rw [parseSsrcInfo_addSsrcLine ssrc value (by decide) (absurd · (by decide)), dropWhile_colon h.1]
  rfl

lemma parseSsrcInfo_msid {streamId id : Text} (h : ValueText streamId) (hstream : ' ' ∉ streamId)
    (hid : ' ' ∉ id) :
    parseSsrcInfo infos (addSsrcLine ssrc "msid".toList (streamId ++ " ".toList ++ id)) =
      .ok (edit ssrc (fun info => { info with streamId, trackId := id }) infos) := by
  have happend : streamId ++ " ".toList ++ id = streamId ++ ' ' :: id := by simp
  have hsplit : split ' ' (streamId ++ ' ' :: id) = [streamId, id] := by
    rw [split_append_cons hstream, split_of_not_mem hid]
  have hvalue : (streamId ++ ' ' :: id).dropWhile (· = ':') = streamId ++ ' ' :: id := by
    refine dropWhile_colon ?_
    cases streamId with
    | nil => simp
    | cons c rest => exact h.1
  have hset : setSsrcAttribute "msid".toList (streamId ++ ' ' :: id) =
      fun info => { info with streamId, trackId := id } := by
    funext info
    rw [setSsrcAttribute, if_neg (by decide), if_pos rfl, hsplit]
  rw [happend, parseSsrcInfo_addSsrcLine ssrc _ (by decide), hvalue, hset]
  · rfl
  · rw [hvalue, hsplit]
    exact fun _ => le_rfl

/-- The attributes that a reader does not know. -/
lemma parseSsrcInfo_label {attr : Text} (hattr : attr ∈ ["mslabel".toList, "lable".toList])
    (value : Text) : parseSsrcInfo infos (addSsrcLine ssrc attr value) =
      .ok (edit ssrc id infos) := by
  have hall : ∀ attr ∈ ["mslabel".toList, "lable".toList],
      (attr.head? ≠ some ' ' ∧ ':' ∉ attr ∧ attr ≠ []) ∧ attr ≠ "cname".toList ∧
        attr ≠ "msid".toList := by decide
  obtain ⟨hok, hcname, hmsid⟩ := hall attr hattr
  have hset : ∀ value, setSsrcAttribute attr value = id := by
    intro value
    funext info
    rw [setSsrcAttribute, if_neg hcname, if_neg hmsid, id]
  rw [parseSsrcInfo_addSsrcLine ssrc value hok (absurd · hmsid), hset]
  rfl

end attributes

/-- The lines of an ssrc give it the fields of its track. -/
lemma parseSsrcInfo_ssrcLines (h : track.Readable) (ssrc : UInt32) (infos : List SsrcInfo) :
    (ssrcLines track ssrc).foldlM parseSsrcInfo infos =
      .ok (edit ssrc (SsrcInfo.setTrack track) infos) := by
  simp only [ssrcLines, List.foldlM_cons, List.foldlM_nil, parseSsrcInfo_cname ssrc _ h.cname,
    parseSsrcInfo_msid ssrc _ h.streamId.1 h.streamId.2 h.id.1,
    parseSsrcInfo_label ssrc _ (List.mem_cons_self (a := "mslabel".toList)),
    parseSsrcInfo_label ssrc _ (List.mem_cons_of_mem _ (List.mem_singleton_self "lable".toList)),
    bind, Except.bind]
  rw [edit_edit, edit_edit, edit_edit]
  · rfl
  all_goals exact fun _ => rfl

lemma readSsrcLine_of_notMem (h : ':' ∉ line) : readSsrcLine line = .ok none := by
  have hcontains : contains line "a=ssrc:".toList = false :=
    contains_eq_false (mem_literal (by decide)) h
  rw [readSsrcLine, hcontains]
  rfl

lemma parseSsrcInfo_groupLine {group : SsrcGroup} (h : ':' ∉ group.semantics)
    (infos : List SsrcInfo) : parseSsrcInfo infos (groupLine group) = .ok infos := by
  have hhead : ':' ∉ "a=ssrc-group".toList := notMem_literal (by decide)
  have hspace : ':' ∉ " ".toList := notMem_literal (by decide)
  have hssrcs : ':' ∉ group.ssrcs.flatMap fun ssrc => " ".toList ++ decimal ssrc.toNat := by
    intro hc
    obtain ⟨ssrc, -, hc⟩ := List.mem_flatMap.mp hc
    rcases List.mem_append.mp hc with hc | hc
    · exact hspace hc
    · exact absurd (isDigit_of_mem_decimal hc) (by decide)
  have hline : ':' ∉ groupLine group := by
    unfold groupLine
    intro hc
    rcases List.mem_append.mp hc with hc | hc
    · exact (List.mem_append.mp hc).elim hhead h
    · exact hssrcs hc
  rw [parseSsrcInfo, readSsrcLine_of_notMem hline]
  rfl

/-! ## Printing and reading all streams -/

/-- What reading a stream adds to the entries. -/
def addStream (infos : List SsrcInfo) (track : StreamParams) : List SsrcInfo :=
  track.ssrcs.foldl (fun infos ssrc => edit ssrc (SsrcInfo.setTrack track) infos) infos

/-- A stream without its groups. -/
def StreamParams.ungrouped (stream : StreamParams) : StreamParams := { stream with ssrcGroups := [] }

/-- The entries of a track. -/
def StreamParams.entries (track : StreamParams) : List SsrcInfo :=
  track.ssrcs.map fun ssrc => SsrcInfo.setTrack track { ssrcId := ssrc }

lemma foldlM_flatMap_of_forall {α β σ ε : Type} {f : σ → β → Except ε σ} {g : α → List β}
    {step : σ → α → σ} {xs : List α}
    (h : ∀ x ∈ xs, ∀ s, (g x).foldlM f s = .ok (step s x)) (s : σ) :
    (xs.flatMap g).foldlM f s = .ok (xs.foldl step s) := by
  induction xs generalizing s with
  | nil => rfl
  | cons x xs ih =>
    rw [List.forall_mem_cons] at h
    rw [List.flatMap_cons, List.foldlM_append, h.1]
    exact ih h.2 _

lemma foldlM_eq_of_forall {α σ ε : Type} {f : σ → α → Except ε σ} {xs : List α}
    (h : ∀ x ∈ xs, ∀ s, f s x = .ok s) {s : σ} : xs.foldlM f s = .ok s := by
  induction xs with
  | nil => rfl
  | cons x xs ih =>
    rw [List.forall_mem_cons] at h
    rw [List.foldlM_cons, h.1]
    exact ih h.2

lemma parseSsrcInfo_buildSsrc {content : MediaContentDescription}
    (h : ∀ stream ∈ content.streams, stream.Readable ∧
      ∀ group ∈ stream.ssrcGroups, ':' ∉ group.semantics) (infos : List SsrcInfo) :
    (buildSsrc content).foldlM parseSsrcInfo infos =
      .ok (content.streams.foldl addStream infos) := by
  rw [buildSsrc_eq]
  refine foldlM_flatMap_of_forall (fun stream hstream infos => ?_) infos
  obtain ⟨hreadable, hgroups⟩ := h stream hstream
  have hkeep : ((stream.ssrcGroups.filter (·.ssrcs ≠ [])).map groupLine).foldlM parseSsrcInfo
      infos = .ok infos := by
    rw [List.foldlM_map]
    exact foldlM_eq_of_forall fun group hgroup infos =>
      parseSsrcInfo_groupLine (hgroups group (List.mem_of_mem_filter hgroup)) infos
  rw [List.foldlM_append, hkeep]
  exact foldlM_flatMap_of_forall (fun ssrc _ infos => parseSsrcInfo_ssrcLines hreadable ssrc infos)
    infos

lemma addStream_of_nodup (h : (infos.map SsrcInfo.ssrcId ++ track.ssrcs).Nodup) :
    addStream infos track = infos ++ track.entries := by
  have hall : ∀ ssrcs : List UInt32, ∀ infos : List SsrcInfo,
      (infos.map SsrcInfo.ssrcId ++ ssrcs).Nodup →
      ssrcs.foldl (fun infos ssrc => edit ssrc (SsrcInfo.setTrack track) infos) infos =
          infos ++ ssrcs.map fun ssrc => SsrcInfo.setTrack track { ssrcId := ssrc } := by
    intro ssrcs
    induction ssrcs with
    | nil => simp
    | cons ssrc ssrcs ih =>
      intro infos h
      have hnew : ssrc ∉ infos.map SsrcInfo.ssrcId := fun hmem =>
        (List.nodup_append.mp h).2.2 ssrc hmem ssrc List.mem_cons_self rfl
      rw [List.foldl_cons, edit, upsert_of_notMem hnew, ih]
      · simp
      · simpa [SsrcInfo.setTrack] using h
  exact hall track.ssrcs infos h

/-- Reading streams with new ssrcs appends their entries. -/
lemma foldl_addStream_of_nodup
    (h : (infos.map SsrcInfo.ssrcId ++ tracks.flatMap StreamParams.ssrcs).Nodup) :
    tracks.foldl addStream infos = infos ++ tracks.flatMap StreamParams.entries := by
  induction tracks generalizing infos with
  | nil => simp
  | cons track tracks ih =>
    rw [List.flatMap_cons, ← List.append_assoc] at h
    have hkeys : (infos ++ track.entries).map SsrcInfo.ssrcId =
        infos.map SsrcInfo.ssrcId ++ track.ssrcs := by
      rw [List.map_append, StreamParams.entries, List.map_map]
      exact congrArg _ (List.map_id _)
    rw [List.foldl_cons, addStream_of_nodup (List.nodup_append.mp h).1, ih, List.flatMap_cons,
      List.append_assoc]
    rw [hkeys]
    exact h

/-- Reading streams again leaves the entries as they are. -/
lemma foldl_addStream_of_mem
    (h : ∀ track ∈ tracks, ∀ ssrc ∈ track.ssrcs, ssrc ∈ infos.map SsrcInfo.ssrcId ∧
      ∀ info ∈ infos, info.ssrcId = ssrc → SsrcInfo.setTrack track info = info) :
    tracks.foldl addStream infos = infos := by
  have hfixed : ∀ ssrcs : List UInt32, ∀ track, (∀ ssrc ∈ ssrcs, ssrc ∈ infos.map SsrcInfo.ssrcId ∧
      ∀ info ∈ infos, info.ssrcId = ssrc → SsrcInfo.setTrack track info = info) →
      ssrcs.foldl (fun infos ssrc => edit ssrc (SsrcInfo.setTrack track) infos) infos = infos := by
    intro ssrcs track
    induction ssrcs with
    | nil => exact fun _ => rfl
    | cons ssrc ssrcs ih =>
      intro h
      rw [List.forall_mem_cons] at h
      rw [List.foldl_cons, edit, upsert_of_mem h.1.1 h.1.2]
      exact ih h.2
  induction tracks with
  | nil => rfl
  | cons track tracks ih =>
    rw [List.forall_mem_cons] at h
    rw [List.foldl_cons, addStream, hfixed _ _ h.1]
    exact ih h.2

lemma foldl_addTrack_entries (hid : track.id ∉ tracks.map StreamParams.id)
    (hssrcs : track.ssrcs ≠ []) (hgroups : track.ssrcGroups = []) :
    track.entries.foldl addTrack tracks = tracks ++ [track] := by
  have hrest : ∀ rest done : List UInt32,
      (rest.map fun ssrc => SsrcInfo.setTrack track { ssrcId := ssrc }).foldl addTrack
        (tracks ++ [{ track with ssrcs := done }]) =
          tracks ++ [{ track with ssrcs := done ++ rest }] := by
    intro rest
    induction rest with
    | nil => simp
    | cons ssrc rest ih =>
      intro done
      have hadd : addTrack (tracks ++ [{ track with ssrcs := done }])
          (SsrcInfo.setTrack track { ssrcId := ssrc }) =
            tracks ++ [{ track with ssrcs := done ++ [ssrc] }] := by
        rw [addTrack]
        refine (upsert_append_of_notMem hid _).trans ?_
        rw [upsert, if_pos rfl]
        rfl
      rw [List.map_cons, List.foldl_cons, hadd, ih, List.append_assoc, List.singleton_append]
  obtain ⟨ssrc, rest, hcons⟩ := List.exists_cons_of_ne_nil hssrcs
  have hfirst : addTrack tracks (SsrcInfo.setTrack track { ssrcId := ssrc }) =
      tracks ++ [{ track with ssrcs := [ssrc] }] := by
    rw [addTrack]
    refine (upsert_of_notMem hid).trans ?_
    rw [hgroups]
    rfl
  rw [StreamParams.entries, hcons, List.map_cons, List.foldl_cons, hfirst, hrest,
    List.singleton_append, ← hcons]

/-- Tracks as an accepted answer has them. -/
structure ProperTracks (tracks : List StreamParams) : Prop where
  ids : (tracks.map StreamParams.id).Nodup
  ssrcs : (tracks.flatMap StreamParams.ssrcs).Nodup
  nonempty : ∀ track ∈ tracks, track.ssrcs ≠ []
  groups : ∀ track ∈ tracks, track.ssrcGroups = []
  readable : ∀ track ∈ tracks, track.Readable

lemma map_ssrcId_entries (tracks : List StreamParams) :
    (tracks.flatMap StreamParams.entries).map SsrcInfo.ssrcId =
      tracks.flatMap StreamParams.ssrcs := by
  rw [List.map_flatMap]
  refine List.flatMap_congr fun track _ => ?_
  rw [StreamParams.entries, List.map_map]
  exact List.map_id _

section proper
variable (h : ProperTracks tracks)
include h

lemma ProperTracks.createTrackFromSsrcInfo :
    createTrackFromSsrcInfo (tracks.flatMap StreamParams.entries) = tracks := by
  induction tracks using List.reverseRecOn with
  | nil => rfl
  | append_singleton tracks track ih =>
    have hids := h.ids
    have hssrcs := h.ssrcs
    rw [List.map_append, List.map_singleton, List.nodup_append] at hids
    rw [List.flatMap_append, List.nodup_append] at hssrcs
    have hmem : track ∈ tracks ++ [track] := List.mem_append_right _ (List.mem_singleton_self _)
    have htracks := ih ⟨hids.1, hssrcs.1, fun t ht => h.nonempty t (List.mem_append_left _ ht),
      fun t ht => h.groups t (List.mem_append_left _ ht),
      fun t ht => h.readable t (List.mem_append_left _ ht)⟩
    rw [Sdp.createTrackFromSsrcInfo] at htracks ⊢
    rw [List.flatMap_append, List.flatMap_singleton, List.foldl_append, htracks]
    refine foldl_addTrack_entries (fun hid => ?_) (h.nonempty track hmem) (h.groups track hmem)
    exact hids.2.2 _ hid _ (List.mem_singleton_self _) rfl

/-- However often the tracks are printed, they are read once. -/
lemma ProperTracks.foldl_addStream (k : Nat) :
    (List.replicate (k + 1) tracks).flatten.foldl addStream [] =
      tracks.flatMap StreamParams.entries := by
  induction k with
  | zero =>
    rw [Nat.zero_add, List.replicate_one, List.flatten_singleton, foldl_addStream_of_nodup]
    · rfl
    · exact h.ssrcs
  | succ k ih =>
    rw [List.replicate_succ', List.flatten_append, List.flatten_singleton, List.foldl_append, ih]
    refine foldl_addStream_of_mem fun track htrack ssrc hssrc => ⟨?_, fun info hinfo heq => ?_⟩
    · rw [map_ssrcId_entries]
      exact List.mem_flatMap.mpr ⟨track, htrack, hssrc⟩
    · obtain ⟨track', htrack', hinfo⟩ := List.mem_flatMap.mp hinfo
      obtain ⟨ssrc', hssrc', rfl⟩ := List.mem_map.mp hinfo
      obtain rfl : ssrc' = ssrc := heq
      have hpairwise := (List.nodup_flatMap.mp h.ssrcs).2
      have : Std.Symm (Function.onFun List.Disjoint StreamParams.ssrcs) :=
        ⟨fun _ _ hdisjoint _ hx hy => hdisjoint hy hx⟩
      obtain rfl : track' = track := by
        by_contra hne
        exact hpairwise.forall htrack' htrack hne hssrc' hssrc
      rfl

/-- Copies of the tracks are as readable as these. -/
lemma ProperTracks.readable_of_ungrouped {streams : List StreamParams} {k : Nat}
    (hstreams : streams.map StreamParams.ungrouped = (List.replicate k tracks).flatten) :
    ∀ stream ∈ streams, stream.Readable := by
  intro stream hstream
  have hmem : stream.ungrouped ∈ (List.replicate k tracks).flatten :=
    hstreams ▸ List.mem_map_of_mem hstream
  obtain ⟨ts, hts, hmem⟩ := List.mem_flatten.mp hmem
  rw [List.eq_of_mem_replicate hts] at hmem
  have hr := h.readable _ hmem
  exact ⟨hr.cname, hr.streamId, hr.id⟩

/-- The lines of a content lead to its tracks. -/
lemma ProperTracks.readTracks_buildSsrc {content : MediaContentDescription} (k : Nat)
    (hstreams : content.streams.map StreamParams.ungrouped =
      (List.replicate (k + 1) tracks).flatten)
    (hgroups : ∀ stream ∈ content.streams, ∀ group ∈ stream.ssrcGroups, ':' ∉ group.semantics) :
    readTracks (buildSsrc content) = .ok tracks := by
  have hreadable := h.readable_of_ungrouped hstreams
  have hfold : content.streams.foldl addStream [] =
      (content.streams.map StreamParams.ungrouped).foldl addStream [] := by
    rw [List.foldl_map]
    rfl
  rw [readTracks, parseSsrcInfo_buildSsrc fun stream hstream =>
    ⟨hreadable stream hstream, hgroups stream hstream⟩, hfold, hstreams, h.foldl_addStream k]
  exact congrArg Except.ok h.createTrackFromSsrcInfo

end proper

/-! ## What an answer declares -/

lemma ValueText.ofPrefix {t : Text} (h : ValueText value) (hpre : t <+: value) : ValueText t := by
  obtain ⟨rest, rfl⟩ := hpre
  refine ⟨fun hhead => h.1 ?_, fun hc => h.2 (List.mem_append_left _ hc)⟩
  rw [List.head?_append, hhead]
  rfl

lemma subset_of_substr {t : Text} {n : Nat} (h : substr l n = .ok t) : t ⊆ l := by
  unfold substr at h
  split at h
  · cases h
    exact List.drop_subset n l
  · cases h

lemma valueText_of_readSsrcLine {attr : Text} (hline : '\n' ∉ line)
    (h : readSsrcLine line = .ok (some (ssrc, attr, value))) : ValueText value := by
  unfold readSsrcLine at h
  split at h
  · obtain ⟨rest, hrest, h⟩ := bind_eq_ok.mp h
    split at h
    · cases h
    · rename_i field1 field2 hfields
      obtain ⟨id, -, h⟩ := bind_eq_ok.mp h
      split at h
      · cases h
      · split at h
        · cases h
        · rename_i hvalue
          cases h
          obtain ⟨-, hsub, hhead⟩ := tokenizeFirst_eq_some hvalue
          obtain ⟨-, hfield, -⟩ := tokenizeFirst_eq_some hfields
          exact ⟨hhead, fun hc => hline (subset_of_substr hrest (hfield (hsub hc)))⟩
  · cases h

lemma SsrcInfo.Readable.setSsrcAttribute {attr : Text} (h : info.Readable)
    (hvalue : ValueText value) : (setSsrcAttribute attr value info).Readable := by
  unfold Sdp.setSsrcAttribute
  split
  · exact ⟨hvalue, h.streamId, h.trackId⟩
  · split
    · split
      · rename_i streamId hsplit
        have hmem : streamId ∈ split ' ' value := hsplit ▸ List.mem_singleton_self _
        exact ⟨h.cname, ⟨hvalue.ofPrefix (prefix_of_split_eq_cons hsplit),
          (notMem_of_mem_split hmem).1⟩, h.trackId⟩
      · rename_i streamId trackId hsplit
        have hstream : streamId ∈ split ' ' value := hsplit ▸ List.mem_cons_self
        have htrack : trackId ∈ split ' ' value :=
          hsplit ▸ List.mem_cons_of_mem _ (List.mem_singleton_self _)
        obtain ⟨hspace, hsub⟩ := notMem_of_mem_split htrack
        exact ⟨h.cname, ⟨hvalue.ofPrefix (prefix_of_split_eq_cons hsplit),
          (notMem_of_mem_split hstream).1⟩, hspace, fun hc => hvalue.2 (hsub hc)⟩
      · exact h
    · exact h

lemma readable_new (ssrc : UInt32) : SsrcInfo.Readable { ssrcId := ssrc } :=
  ⟨⟨by simp, by simp⟩, ⟨⟨by simp, by simp⟩, by simp⟩, by simp, by simp⟩

lemma readable_parseSsrcInfo (hline : '\n' ∉ line) (h : parseSsrcInfo infos line = .ok infos')
    (hinfos : ∀ info ∈ infos, info.Readable) : ∀ info ∈ infos', info.Readable := by
  unfold parseSsrcInfo at h
  obtain ⟨read, hread, h⟩ := bind_eq_ok.mp h
  cases read with
  | none =>
    cases h
    exact hinfos
  | some entry =>
    obtain ⟨ssrcId, attr, value⟩ := entry
    have hvalue := valueText_of_readSsrcLine hline hread
    simp only at h
    split at h
    · cases h
    · cases h
      exact forall_mem_upsert hinfos (fun _ hinfo => hinfo.setSsrcAttribute hvalue)
        ((readable_new ssrcId).setSsrcAttribute hvalue)

lemma readable_parseSsrcInfos (hlines : ∀ line ∈ lines, '\n' ∉ line)
    (h : lines.foldlM parseSsrcInfo infos = .ok infos')
    (hinfos : ∀ info ∈ infos, info.Readable) : ∀ info ∈ infos', info.Readable := by
  induction lines generalizing infos with
  | nil =>
    cases h
    exact hinfos
  | cons line lines ih =>
    rw [List.forall_mem_cons] at hlines
    rw [List.foldlM_cons] at h
    obtain ⟨infos₁, h₁, h⟩ := bind_eq_ok.mp h
    exact ih hlines.2 h (readable_parseSsrcInfo hlines.1 h₁ hinfos)

lemma properTracks_createTrackFromSsrcInfo (hinfos : ∀ info ∈ infos, info.Readable)
    (hnodup : (infos.map SsrcInfo.ssrcId).Nodup) :
    ProperTracks (createTrackFromSsrcInfo infos) := by
  have htracks := tracksOf_createTrackFromSsrcInfo infos
  have hboth : ∀ track ∈ createTrackFromSsrcInfo infos, track.ssrcs ≠ [] ∧ track.Readable := by
    clear htracks hnodup
    induction infos using List.reverseRecOn with
    | nil => nofun
    | append_singleton infos info ih =>
      rw [List.forall_mem_append] at hinfos
      have hinfo := hinfos.2 info (List.mem_singleton_self _)
      rw [createTrackFromSsrcInfo, List.foldl_append]
      exact forall_mem_upsert (ih hinfos.1)
        (fun track h => ⟨by simp, hinfo.cname, hinfo.streamId, h.2.id⟩)
        ⟨by simp, hinfo.cname, hinfo.streamId, hinfo.trackId⟩
  exact ⟨htracks.ids, htracks.ssrcs.nodup_iff.mpr hnodup, fun track h => (hboth track h).1,
    htracks.groups, fun track h => (hboth track h).2⟩

lemma readable_of_declaredGroup {group : SsrcGroup} (hline : '\n' ∉ line)
    (h : declaredGroup line = some group) : group.Readable := by
  unfold declaredGroup at h
  split at h
  · rename_i hread
    cases h
    unfold readSsrcGroupLine at hread
    split at hread
    · obtain ⟨rest, hrest, hread⟩ := bind_eq_ok.mp hread
      split at hread
      · rename_i field id ids hsplit
        simp only at hread
        split at hread
        · cases hread
        · rename_i hne
          split at hread
          · cases hread
          · cases hread
            have hfield : field ∈ split ' ' rest := hsplit ▸ List.mem_cons_self
            have hmem : getAttribute field ∈ tokenize ':' field := by
              unfold getAttribute at hne ⊢
              rw [List.getD_eq_getElem?_getD] at hne ⊢
              cases hget : (tokenize ':' field)[1]? with
              | none => exact absurd (by rw [hget]; rfl) hne
              | some x => exact List.mem_of_getElem? hget
            obtain ⟨hcolon, hsub⟩ := notMem_of_mem_split (List.mem_of_mem_filter hmem)
            exact ⟨hcolon, fun hc => hline (subset_of_substr hrest
              ((notMem_of_mem_split hfield).2 (hsub hc)))⟩
      · cases hread
    · cases hread
  · cases h

/-- How often the streams of a content have the tracks of an answer. -/
def copies (sdp : Text) : MediaType → Nat
  | .audio => 1
  | .video => (declaredGroups .video sdp).length

lemma ungrouped_foldl_addGroup {groups : List SsrcGroup} (hgroups : ∀ group ∈ groups, group.ssrcs ≠ [])
    (tracks streams : List StreamParams) :
    (groups.foldl addGroup (tracks, streams)).2.map StreamParams.ungrouped =
      streams.map StreamParams.ungrouped ++
        (List.replicate groups.length (tracks.map StreamParams.ungrouped)).flatten := by
  induction groups generalizing tracks streams with
  | nil => simp
  | cons group groups ih =>
    rw [List.forall_mem_cons] at hgroups
    have hattach := map_attachGroup StreamParams.ungrouped (fun _ _ => rfl) tracks group
    rw [List.foldl_cons, addGroup, if_neg hgroups.1, ih hgroups.2, hattach, List.map_append, hattach,
      List.length_cons, List.replicate_succ, List.flatten_cons, List.append_assoc]

lemma readable_foldl_addGroup {groups : List SsrcGroup} (hgroups : ∀ group ∈ groups, group.Readable)
    {acc : List StreamParams × List StreamParams}
    (hacc : ∀ stream ∈ acc.1 ++ acc.2, ∀ group ∈ stream.ssrcGroups, group.Readable) :
    ∀ stream ∈ (groups.foldl addGroup acc).2, ∀ group ∈ stream.ssrcGroups, group.Readable := by
  induction groups generalizing acc with
  | nil => exact fun stream h => hacc stream (List.mem_append_right _ h)
  | cons group groups ih =>
    rw [List.forall_mem_cons] at hgroups
    rw [List.foldl_cons]
    refine ih hgroups.2 ?_
    rw [List.forall_mem_append] at hacc
    have hattach : ∀ stream ∈ attachGroup acc.1 group, ∀ g ∈ stream.ssrcGroups, g.Readable := by
      unfold attachGroup
      split
      · exact hacc.1
      · intro stream hstream
        obtain ⟨track, htrack, rfl⟩ := List.mem_map.mp hstream
        split
        · exact List.forall_mem_append.mpr
            ⟨hacc.1 track htrack, List.forall_mem_singleton.mpr hgroups.1⟩
        · exact hacc.1 track htrack
    unfold addGroup
    split
    · exact List.forall_mem_append.mpr hacc
    · exact List.forall_mem_append.mpr ⟨hattach, List.forall_mem_append.mpr ⟨hacc.2, hattach⟩⟩

/-- What the server keeps of the tracks of an answer. -/
structure AnswerTracks (sdp : Text) (d : SessionDescription) (tracks : MediaType → List StreamParams) :
    Prop where
  reads : ∀ ty, readTracks (sectionOf ty sdp) = .ok (tracks ty)
  proper : ∀ ty, ProperTracks (tracks ty)
  streams : ∀ ty, (d.streamsOf ty).map StreamParams.ungrouped =
    (List.replicate (copies sdp ty) (tracks ty)).flatten
  groups : ∀ ty, ∀ stream ∈ d.streamsOf ty, ∀ group ∈ stream.ssrcGroups, group.Readable

lemma ungrouped_of_groups (h : ∀ track ∈ tracks, track.ssrcGroups = []) :
    tracks.map StreamParams.ungrouped = tracks := by
  refine (List.map_congr_left fun track htrack => ?_).trans (List.map_id _)
  rw [StreamParams.ungrouped, ← h track htrack]
  rfl

lemma notMem_of_mem_sdpLines {sdp : Text} (h : l ∈ sdpLines sdp) : '\n' ∉ l := by
  have htokens : ∀ field ∈ tokenize '\n' sdp, '\n' ∉ field := fun field hfield =>
    (notMem_of_mem_split (List.mem_of_mem_filter hfield)).1
  unfold sdpLines at h
  dsimp only at h
  split at h
  · obtain ⟨field, hfield, rfl⟩ := List.mem_map.mp h
    exact fun hc => htokens field hfield (List.dropLast_subset field hc)
  · exact htokens l h

lemma subset_of_sectionLines (mid mediaType : Text) (lines : List Text) :
    sectionLines mid mediaType lines ⊆ lines := by
  induction lines generalizing mediaType with
  | nil => exact List.nil_subset _
  | cons line lines ih =>
    rw [sectionLines]
    split
    · exact List.nil_subset _
    · split
      · exact List.cons_subset_cons _ (ih _)
      · exact List.subset_cons_of_subset _ (ih _)

lemma answerTracks_of_setRemoteSdp {dtlsTransport : Text → Bool} {sdp : Text}
    {d : SessionDescription} (h : setRemoteSdp dtlsTransport sdp = .ok d) :
    ∃ tracks, AnswerTracks sdp d tracks := by
  obtain ⟨s, hs, rfl⟩ := setRemoteSdp_spec h
  have hrun := parseLines_spec hs
  have hlines : ∀ ty, ∀ line ∈ sectionOf ty sdp, '\n' ∉ line := fun ty line hline =>
    notMem_of_mem_sdpLines (subset_of_sectionLines _ _ _ hline)
  have hparse : ∀ ty, (sectionOf ty sdp).foldlM parseSsrcInfo [] = .ok (s.ssrcInfo ty) := by
    intro ty
    have hnil : ParseState.ssrcInfo {} ty = [] := by cases ty <;> rfl
    have hparse := hrun.ssrcInfo ty
    rw [hnil] at hparse
    exact hparse
  have hproper : ∀ ty, ProperTracks (createTrackFromSsrcInfo (s.ssrcInfo ty)) := fun ty =>
    properTracks_createTrackFromSsrcInfo (readable_parseSsrcInfos (hlines ty) (hparse ty)
      fun _ h => absurd h List.not_mem_nil) (parseSsrcInfos_spec (hparse ty) List.nodup_nil).1
  obtain ⟨hdeclared, hne⟩ := parseSsrcGroupInfos_spec hrun.groups
  have hgroups : s.videoSsrcGroups = declaredGroups .video sdp := hdeclared
  have hreadable : ∀ group ∈ declaredGroups .video sdp, group.Readable := by
    intro group hgroup
    obtain ⟨line, hline, hgroup⟩ := List.mem_filterMap.mp hgroup
    exact readable_of_declaredGroup (hlines .video line hline) hgroup
  have hnone : ∀ infos, ∀ track ∈ createTrackFromSsrcInfo infos, ∀ group ∈ track.ssrcGroups,
      group.Readable := by
    intro infos track htrack
    rw [(tracksOf_createTrackFromSsrcInfo infos).groups track htrack]
    exact fun _ h => absurd h List.not_mem_nil
  -- A section without an m-line is empty, and what it collects too.
  have hempty : ∀ ty, ty ∉ s.contents → s.ssrcInfo ty = [] := by
    intro ty hty
    have hlisted := hrun.listed (fun ty hty => by cases ty <;> revert hty <;> decide) ty
    have hsection : sectionOf ty sdp = [] := not_not.mp fun hne => hty (hlisted hne)
    have hparse := hparse ty
    rw [hsection] at hparse
    exact (Except.ok.inj hparse).symm
  refine ⟨fun ty => createTrackFromSsrcInfo (s.ssrcInfo ty), fun ty => ?_, hproper, fun ty => ?_,
    fun ty => ?_⟩
  · rw [readTracks, hparse]
    rfl
  · rw [streamsOf_description]
    split
    · have hungrouped := ungrouped_of_groups (hproper ty).groups
      cases ty with
      | audio =>
        rw [copies, List.replicate_one, List.flatten_singleton]
        exact hungrouped
      | video =>
        refine (ungrouped_foldl_addGroup (hgroups ▸ hne) _ []).trans ?_
        rw [hgroups, copies]
        exact congrArg List.flatten (congrArg (List.replicate _) hungrouped)
    · rename_i hty
      rw [hempty ty hty, createTrackFromSsrcInfo, List.foldl_nil, List.map_nil]
      exact (List.flatten_replicate_nil).symm
  · rw [streamsOf_description]
    split
    · cases ty with
      | audio => exact hnone _
      | video =>
        refine readable_foldl_addGroup (hgroups ▸ hreadable) ?_
        rw [List.append_nil]
        exact hnone _
    · exact fun _ h => absurd h List.not_mem_nil

end XrtcServer.Sdp
