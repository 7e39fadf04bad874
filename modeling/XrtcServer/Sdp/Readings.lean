import XrtcServer.Sdp.Tracks
import XrtcServer.Sdp.Outcomes

/-!
# What a line says

The loop over the lines reads each line on its own and then puts what it has read into what it has
collected. This file tells the two apart: `readLine` depends on the line and on the section alone,
and `LineReading.apply` no longer on the line.
-/

namespace XrtcServer.Sdp
open XrtcServer.Base XrtcServer.Core

variable {line mediaType : Text} {s : ParseState} {ty : MediaType}

/-! ## Readings -/

/-- What a line sets in the transport of its section. -/
structure TransportEdit where
  iceUfrag : Option Text := none
  icePwd : Option Text := none
  identityFingerprint : Option SSLFingerprint := none
  deriving DecidableEq, Repr

def TransportEdit.apply (e : TransportEdit) (td : TransportDescription) : TransportDescription :=
  { td with
    iceUfrag := e.iceUfrag.getD td.iceUfrag
    icePwd := e.icePwd.getD td.icePwd
    identityFingerprint := e.identityFingerprint.or td.identityFingerprint }

def readTransport (line : Text) : Except SdpError TransportEdit :=
  if contains line "a=ice-ufrag".toList then .ok { iceUfrag := getAttribute line }
  else if contains line "a=ice-pwd".toList then .ok { icePwd := getAttribute line }
  else if contains line "a=fingerprint".toList then
    match tokenize ' ' line with
    | [item, content] => do
      let alg := (← substr item 14).map Char.toLower
      match createFingerprint alg content with
      | none => throw .rejected
      | some fp => return { identityFingerprint := fp }
    | _ => .error .rejected
  else .ok {}

/-- What a line sets in the entry of an ssrc. -/
structure SsrcEdit where
  cname : Option Text := none
  streamId : Option Text := none
  trackId : Option Text := none
  deriving DecidableEq, Repr

def SsrcEdit.apply (e : SsrcEdit) (info : SsrcInfo) : SsrcInfo :=
  { info with
    cname := e.cname.getD info.cname
    streamId := e.streamId.getD info.streamId
    trackId := e.trackId.getD info.trackId }

def ssrcEdit (attr value : Text) : SsrcEdit :=
  if attr = "cname".toList then { cname := value }
  else if attr = "msid".toList then
    match split ' ' value with
    | [streamId] => { streamId }
    | [streamId, trackId] => { streamId, trackId }
    | _ => {}
  else {}

def readSsrc (line : Text) : Except SdpError (Option (UInt32 × SsrcEdit)) := do
  match ← readSsrcLine line with
  | none => return none
  | some (ssrcId, attr, value) =>
    if attr = "msid".toList ∧ 2 < (split ' ' value).length then throw .rejected
    else return some (ssrcId, ssrcEdit attr value)

def applySsrc (ssrcInfo : List SsrcInfo) : Option (UInt32 × SsrcEdit) → List SsrcInfo
  | none => ssrcInfo
  | some (ssrcId, edit) => upsert SsrcInfo.ssrcId ssrcId { ssrcId } edit.apply ssrcInfo

/-- What a section takes from a line. -/
@[ext] structure SectionReading where
  transport : TransportEdit := {}
  ssrcGroup : Option SsrcGroup := none
  ssrc : Option (UInt32 × SsrcEdit) := none
  deriving DecidableEq, Repr

def readSection (ty : MediaType) (line : Text) : Except SdpError SectionReading := do
  let transport ← readTransport line
  let ssrcGroup ← if ty = .video then readSsrcGroupLine line else pure none
  let ssrc ← readSsrc line
  return { transport, ssrcGroup, ssrc }

def SectionReading.apply (ty : MediaType) (r : SectionReading) (s : ParseState) : ParseState :=
  match ty with
  | .audio =>
    { s with
      audioTd := r.transport.apply s.audioTd
      audioSsrcInfo := applySsrc s.audioSsrcInfo r.ssrc }
  | .video =>
    { s with
      videoTd := r.transport.apply s.videoTd
      videoSsrcInfo := applySsrc s.videoSsrcInfo r.ssrc
      videoSsrcGroups := s.videoSsrcGroups ++ r.ssrcGroup.toList }

lemma readSection_eq_ok {r : SectionReading} :
    readSection ty line = .ok r ↔ readTransport line = .ok r.transport ∧
      (if ty = .video then readSsrcGroupLine line = .ok r.ssrcGroup else r.ssrcGroup = none) ∧
      readSsrc line = .ok r.ssrc := by
  rw [readSection]
  cases readTransport line with
  | error e => exact iff_of_false nofun nofun
  | ok transport =>
    cases ty with
    | audio =>
      simp only [bind, Except.bind, pure, Except.pure, reduceCtorEq, if_false]
      cases readSsrc line with
      | error e => exact iff_of_false nofun nofun
      | ok ssrc => simp [SectionReading.ext_iff, eq_comm]
    | video =>
      simp only [bind, Except.bind, pure, Except.pure, if_true]
      cases readSsrcGroupLine line with
      | error e => exact iff_of_false nofun nofun
      | ok ssrcGroup =>
        cases readSsrc line with
        | error e => exact iff_of_false nofun nofun
        | ok ssrc => simp [SectionReading.ext_iff]

lemma readTransport_eq_nothing :
    readTransport line = .ok {} ↔ contains line "a=ice-ufrag".toList = false ∧
      contains line "a=ice-pwd".toList = false ∧ contains line "a=fingerprint".toList = false := by
  unfold readTransport
  cases contains line "a=ice-ufrag".toList with
  | true => simp
  | false =>
    cases contains line "a=ice-pwd".toList with
    | true => simp
    | false =>
      cases contains line "a=fingerprint".toList with
      | false => simp
      | true =>
        simp only [Bool.false_eq_true, if_false, if_true, Bool.true_eq_false, and_false, iff_false]
        intro h
        split at h
        · obtain ⟨alg, -, h⟩ := bind_eq_ok.mp h
          split at h <;> cases h
        · cases h

lemma readSsrcGroupLine_eq_none :
    readSsrcGroupLine line = .ok none ↔ contains line "a=ssrc-group:".toList = false := by
  unfold readSsrcGroupLine
  cases contains line "a=ssrc-group:".toList with
  | false => simp
  | true =>
    simp only [if_true, Bool.true_eq_false, iff_false]
    intro h
    obtain ⟨rest, -, h⟩ := bind_eq_ok.mp h
    split at h
    · split at h
      · cases h
      · split at h <;> cases h
    · cases h

lemma readSsrc_eq_none :
    readSsrc line = .ok none ↔ contains line "a=ssrc:".toList = false := by
  rw [readSsrc, readSsrcLine]
  cases contains line "a=ssrc:".toList with
  | false => simp [bind, Except.bind, pure, Except.pure]
  | true =>
    simp only [if_true, Bool.true_eq_false, iff_false]
    intro h
    obtain ⟨read, hread, h⟩ := bind_eq_ok.mp h
    cases read with
    | none =>
      obtain ⟨rest, -, hread⟩ := bind_eq_ok.mp hread
      split at hread
      · cases hread
      · obtain ⟨number, -, hread⟩ := bind_eq_ok.mp hread
        split at hread
        · cases hread
        · split at hread <;> cases hread
    | some read =>
      dsimp only at h
      split at h <;> cases h

/-- The section that a media type stands for. -/
def namedType (mediaType : Text) : Option MediaType :=
  if mediaType = MediaType.audio.mid then some .audio
  else if mediaType = MediaType.video.mid then some .video
  else none

/-- What the loop takes from a line: the groups, the section that it begins, and what each section
takes. -/
@[ext] structure LineReading where
  groups : List ContentGroup := []
  entered : Option MediaType := none
  inside : MediaType → SectionReading := fun _ => {}

instance : DecidableEq LineReading := fun r r' =>
  decidable_of_iff (r.groups = r'.groups ∧ r.entered = r'.entered ∧
    r.inside .audio = r'.inside .audio ∧ r.inside .video = r'.inside .video) <| by
    rw [LineReading.ext_iff, funext_iff]
    exact and_congr_right' (and_congr_right' ⟨fun h ty => by cases ty; exacts [h.1, h.2],
      fun h => ⟨h .audio, h .video⟩⟩)

def readLine (mediaType line : Text) : Except SdpError LineReading := do
  let mediaType ← nextMediaType mediaType line
  let r : LineReading :=
    { groups := bundleGroups line
      entered := if MediaLine line then namedType mediaType else none }
  match namedType mediaType with
  | none => return r
  | some ty =>
    let reading ← readSection ty line
    return { r with inside := fun ty' => if ty' = ty then reading else {} }

lemma typeAfter_of_nextMediaType {mediaType' : Text}
    (h : nextMediaType mediaType line = .ok mediaType') : mediaType' = typeAfter mediaType line := by
  have hout := nextMediaType_outcome mediaType line
  rw [h] at hout
  cases hout with
  | ok _ _ htype => exact htype

lemma readLine_spec {r : LineReading} (h : readLine mediaType line = .ok r) :
    r.groups = bundleGroups line ∧
      r.entered = (if MediaLine line then namedType (typeAfter mediaType line) else none) ∧
      ∀ ty, if namedType (typeAfter mediaType line) = some ty
        then readSection ty line = .ok (r.inside ty) else r.inside ty = {} := by
  rw [readLine] at h
  obtain ⟨next, hnext, h⟩ := bind_eq_ok.mp h
  rw [← typeAfter_of_nextMediaType hnext]
  dsimp only at h
  cases hnamed : namedType next with
  | none =>
    rw [hnamed] at h
    cases h
    exact ⟨rfl, rfl, fun ty => rfl⟩
  | some ty =>
    rw [hnamed] at h
    obtain ⟨reading, hreading, h⟩ := bind_eq_ok.mp h
    cases h
    refine ⟨rfl, rfl, fun ty' => ?_⟩
    dsimp only
    by_cases hty : ty' = ty
    · rw [hty, if_pos rfl, if_pos rfl, hreading]
    · rw [if_neg fun h => hty (Option.some.inj h).symm, if_neg hty]

/-- A section begins. -/
def ParseState.begin (s : ParseState) : Option MediaType → ParseState
  | none => s
  | some .audio =>
    { s with
      contents := s.contents ++ [.audio]
      audioTd := { s.audioTd with mid := MediaType.audio.mid } }
  | some .video =>
    { s with
      contents := s.contents ++ [.video]
      videoTd := { s.videoTd with mid := MediaType.video.mid } }

def LineReading.apply (r : LineReading) (mediaType : Text) (s : ParseState) : ParseState :=
  (r.inside .video).apply .video ((r.inside .audio).apply .audio
    { s.begin r.entered with mediaType, contentGroups := s.contentGroups ++ r.groups })

/-! ## The loop body -/

@[simp] lemma SectionReading.apply_nothing (ty : MediaType) (s : ParseState) :
    ({} : SectionReading).apply ty s = s := by
  cases ty with
  | audio => rfl
  | video => simp [SectionReading.apply, TransportEdit.apply, applySsrc]

lemma parseTransportInfo_eq (td : TransportDescription) (line : Text) :
    parseTransportInfo td line = (readTransport line).map (·.apply td) := by
  unfold parseTransportInfo readTransport
  split_ifs
  · rfl
  · rfl
  · rcases tokenize ' ' line with - | ⟨item, - | ⟨content, - | ⟨_, _⟩⟩⟩
    · rfl
    · rfl
    · dsimp only
      cases substr item 14 with
      | error e => rfl
      | ok alg =>
        simp only [bind, Except.bind]
        cases createFingerprint (alg.map Char.toLower) content <;> rfl
    · rfl
  · rfl

lemma setSsrcAttribute_eq (attr value : Text) (info : SsrcInfo) :
    setSsrcAttribute attr value info = (ssrcEdit attr value).apply info := by
  unfold setSsrcAttribute ssrcEdit
  split_ifs
  · rfl
  · rcases split ' ' value with - | ⟨streamId, - | ⟨trackId, - | ⟨_, _⟩⟩⟩ <;> rfl
  · rfl

lemma parseSsrcInfo_eq (infos : List SsrcInfo) (line : Text) :
    parseSsrcInfo infos line = (readSsrc line).map (applySsrc infos) := by
  unfold parseSsrcInfo readSsrc
  cases readSsrcLine line with
  | error e => rfl
  | ok read =>
    rcases read with - | ⟨ssrcId, attr, value⟩
    · rfl
    · simp only [bind, Except.bind]
      split
      · rfl
      · rw [funext (setSsrcAttribute_eq attr value)]
        rfl

lemma parseSsrcGroupInfo_eq (groups : List SsrcGroup) (line : Text) :
    parseSsrcGroupInfo groups line =
      (readSsrcGroupLine line).map fun group => groups ++ group.toList := by
  unfold parseSsrcGroupInfo
  cases readSsrcGroupLine line with
  | error e => rfl
  | ok group =>
    cases group with
    | none => simp [bind, Except.bind, Except.map, pure, Except.pure]
    | some group => rfl

lemma enter_eq (s : ParseState) (mediaType : Text) :
    s.enter mediaType = { s.begin (namedType mediaType) with mediaType } := by
  unfold ParseState.enter namedType
  split_ifs <;> rfl

lemma bundleGroups_of_mediaLine (h : MediaLine line = true) : bundleGroups line = [] := by
  refine bundleGroups_of_other fun hbundle => ?_
  rw [mediaLine_of_bundle hbundle] at h
  cases h

lemma afterMedia_eq (h : mediaType = typeAfter s.mediaType line) :
    s.afterMedia mediaType line =
      { s.begin (if MediaLine line then namedType mediaType else none) with
        mediaType
        contentGroups := s.contentGroups ++ bundleGroups line } := by
  unfold ParseState.afterMedia
  by_cases hline : MediaLine line = true
  · rw [if_pos hline, if_pos hline, bundleGroups_of_mediaLine hline, List.append_nil, enter_eq]
    cases namedType mediaType with
    | none => rfl
    | some ty => cases ty <;> rfl
  · rw [if_neg hline, if_neg hline, h, typeAfter, if_neg hline]
    rfl

lemma readSection_audio (s : ParseState) (line : Text) :
    (do
      let audioTd ← parseTransportInfo s.audioTd line
      let audioSsrcInfo ← parseSsrcInfo s.audioSsrcInfo line
      return { s with audioTd, audioSsrcInfo }) =
      (readSection .audio line).map (·.apply .audio s) := by
  rw [parseTransportInfo_eq, readSection]
  cases readTransport line with
  | error e => rfl
  | ok transport =>
    simp only [bind, Except.bind, Except.map, pure, Except.pure, parseSsrcInfo_eq, reduceCtorEq,
      if_false]
    cases readSsrc line <;> rfl

lemma readSection_video (s : ParseState) (line : Text) :
    (do
      let videoTd ← parseTransportInfo s.videoTd line
      let videoSsrcGroups ← parseSsrcGroupInfo s.videoSsrcGroups line
      let videoSsrcInfo ← parseSsrcInfo s.videoSsrcInfo line
      return { s with videoTd, videoSsrcGroups, videoSsrcInfo }) =
      (readSection .video line).map (·.apply .video s) := by
  rw [parseTransportInfo_eq, readSection]
  cases readTransport line with
  | error e => rfl
  | ok transport =>
    simp only [bind, Except.bind, Except.map, pure, Except.pure, parseSsrcInfo_eq,
      parseSsrcGroupInfo_eq, if_true]
    cases readSsrcGroupLine line with
    | error e => rfl
    | ok ssrcGroup => cases readSsrc line <;> rfl

lemma parseLine_bind (s : ParseState) (line : Text) :
    parseLine s line = (parseMediaLine s line).bind fun t =>
      match namedType t.mediaType with
      | none => .ok t
      | some ty => (readSection ty line).map (·.apply ty t) := by
  unfold parseLine
  refine congrArg (Except.bind (parseMediaLine s line)) (funext fun t => ?_)
  rw [readSection_audio, readSection_video, namedType]
  split_ifs <;> rfl

/-- The loop body reads the line and applies what it has read. -/
theorem parseLine_eq (s : ParseState) (line : Text) :
    parseLine s line = (readLine s.mediaType line).map
      (·.apply (typeAfter s.mediaType line) s) := by
  rw [parseLine_bind, parseMediaLine_eq, readLine]
  cases hnext : nextMediaType s.mediaType line with
  | error e => rfl
  | ok mediaType =>
    have htype := typeAfter_of_nextMediaType hnext
    rw [Except.map, afterMedia_eq htype, ← htype]
    simp only [bind, Except.bind]
    cases namedType mediaType with
    | none => simp [Except.map, pure, Except.pure, LineReading.apply]
    | some ty =>
      dsimp only
      cases readSection ty line with
      | error e => rfl
      | ok reading =>
        cases ty <;> simp [Except.map, pure, Except.pure, LineReading.apply]

lemma nextMediaType_of_mediaLine (h : MediaLine line = true) (mediaType mediaType' : Text) :
    nextMediaType mediaType line = nextMediaType mediaType' line := by
  obtain ⟨hm, hbundle⟩ := Bool.and_eq_true_iff.mp h
  rw [Bool.not_eq_true'] at hbundle
  simp only [nextMediaType, hbundle, hm, Bool.false_eq_true, if_false, if_true]

lemma nextMediaType_of_other (h : MediaLine line = false) (mediaType : Text) :
    nextMediaType mediaType line = .ok mediaType := by
  unfold nextMediaType
  by_cases hbundle : contains line "m=group:BUNDLE".toList = true
  · rw [if_pos hbundle]
  · have hm : ¬ contains line "m=".toList = true := by
      intro hm
      rw [mediaLine_of_m hbundle hm] at h
      cases h
    rw [if_neg hbundle, if_neg hm]

/-- Of the media type only the section matters. -/
lemma readLine_congr (h : namedType mediaType = namedType mediaType') (line : Text) :
    readLine mediaType line = readLine mediaType' line := by
  by_cases hline : MediaLine line = true
  · rw [readLine, nextMediaType_of_mediaLine hline mediaType mediaType', readLine]
  · rw [Bool.not_eq_true] at hline
    rw [readLine, readLine, nextMediaType_of_other hline, nextMediaType_of_other hline, hline]
    simp only [bind, Except.bind, h]

lemma parseMediaLine_of_other (hline : MediaLine line = false) (hgroups : bundleGroups line = [])
    (s : ParseState) : parseMediaLine s line = .ok s := by
  rw [parseMediaLine_eq, nextMediaType_of_other hline, Except.map, ParseState.afterMedia, hline,
    if_neg (by decide), hgroups, List.append_nil]

lemma namedType_mid (ty : MediaType) : namedType ty.mid = some ty := by
  cases ty <;> rfl

lemma namedType_eq_some : namedType mediaType = some ty ↔ mediaType = ty.mid := by
  refine ⟨fun h => ?_, fun h => h ▸ namedType_mid ty⟩
  unfold namedType at h
  split at h
  · cases h
    assumption
  · split at h
    · cases h
      assumption
    · cases h

/-- A line that begins no section and adds no group is read by its section alone. -/
lemma parseLine_of_other {r : SectionReading} (hs : s.mediaType = ty.mid)
    (hline : MediaLine line = false) (hgroups : bundleGroups line = [])
    (hr : readSection ty line = .ok r) : parseLine s line = .ok (r.apply ty s) := by
  rw [parseLine_bind, parseMediaLine_of_other hline hgroups, Except.bind, hs, namedType_mid]
  dsimp only
  rw [hr]
  rfl

/-! ## What a reading changes -/

/-- What `readLine` reads: only the video section takes groups, and a group has ssrcs. -/
structure LineReading.Sound (r : LineReading) : Prop where
  audio : (r.inside .audio).ssrcGroup = none
  video : ∀ g ∈ (r.inside .video).ssrcGroup, g.ssrcs ≠ []

lemma sound_of_readLine {r : LineReading} (h : readLine mediaType line = .ok r) : r.Sound := by
  obtain ⟨-, -, hinside⟩ := readLine_spec h
  constructor
  · have haudio := hinside .audio
    split at haudio
    · have hgroup := (readSection_eq_ok.mp haudio).2.1
      rwa [if_neg nofun] at hgroup
    · rw [haudio]
  · intro g hg
    rw [Option.mem_def] at hg
    have hvideo := hinside .video
    split at hvideo
    · have hgroup := (readSection_eq_ok.mp hvideo).2.1
      rw [if_pos rfl, hg] at hgroup
      exact readSsrcGroupLine_ssrcs hgroup
    · rw [hvideo] at hg
      cases hg

lemma td_apply (r : LineReading) (mediaType : Text) (s : ParseState) (ty : MediaType) :
    (r.apply mediaType s).td ty = (r.inside ty).transport.apply ((s.begin r.entered).td ty) := by
  cases ty <;> rfl

lemma ssrcInfo_apply (r : LineReading) (mediaType : Text) (s : ParseState) (ty : MediaType) :
    (r.apply mediaType s).ssrcInfo ty = applySsrc (s.ssrcInfo ty) (r.inside ty).ssrc := by
  rcases r with ⟨_, - | - | -, _⟩ <;> cases ty <;> rfl

lemma videoSsrcGroups_apply (r : LineReading) (mediaType : Text) (s : ParseState) :
    (r.apply mediaType s).videoSsrcGroups =
      s.videoSsrcGroups ++ (r.inside .video).ssrcGroup.toList := by
  rcases r with ⟨_, - | - | -, _⟩ <;> rfl

lemma contents_apply (r : LineReading) (mediaType : Text) (s : ParseState) :
    (r.apply mediaType s).contents = s.contents ++ r.entered.toList := by
  rcases r with ⟨_, - | - | -, _⟩
  · exact (List.append_nil _).symm
  · rfl
  · rfl

lemma td_begin (s : ParseState) (entered : Option MediaType) (ty : MediaType) :
    ∃ mid, (s.begin entered).td ty = { s.td ty with mid } := by
  rcases entered with - | - | - <;> cases ty <;> exact ⟨_, rfl⟩

lemma mediaType_apply (r : SectionReading) (ty : MediaType) (s : ParseState) :
    (r.apply ty s).mediaType = s.mediaType := by
  cases ty <;> rfl

/-! ## Runs over lines -/

lemma foldlM_cons_ok {lines : List Text} (h : parseLine s line = .ok s') :
    (line :: lines).foldlM parseLine s = lines.foldlM parseLine s' := by
  rw [List.foldlM_cons, h]
  rfl

lemma foldlM_append_ok {lines lines' : List Text} (h : lines.foldlM parseLine s = .ok s') :
    (lines ++ lines').foldlM parseLine s = lines'.foldlM parseLine s' := by
  rw [List.foldlM_append, h]
  rfl

end XrtcServer.Sdp
