import XrtcServer.Sdp.Readings
import XrtcServer.Sdp.Shown

/-!
# What a text sets

What the lines of a text set together, in terms of what each of them sets alone: in each section the
last user fragment, password and fingerprint, the ssrcs with the last of each of their attributes, and
the groups. Two texts that are read to their ends lead to one description precisely where what they
set shows alike.
-/

namespace XrtcServer.Sdp
open XrtcServer.Base XrtcServer.Core

variable {line mediaType : Text} {lines lines' : List Text} {s s' : ParseState} {ty : MediaType}
  {r : SectionReading} {rs : List SectionReading}

/-- The media type after the lines. -/
def typeAfterLines (lines : List Text) : Text := lines.foldl typeAfter []

/-- The description that the lines lead to. -/
def describe (lines : List Text) : Except SdpError SessionDescription :=
  (lines.foldlM parseLine {}).map ParseState.description

lemma parseLine_eq_ok : parseLine s line = .ok s' ↔
    ∃ r, readLine s.mediaType line = .ok r ∧ r.apply (typeAfter s.mediaType line) s = s' := by
  rw [parseLine_eq, map_eq_ok]

/-- A run over some lines and one more. -/
lemma foldlM_concat_eq_ok : (lines ++ [line]).foldlM parseLine {} = .ok s ↔
    ∃ t, lines.foldlM parseLine {} = .ok t ∧ parseLine t line = .ok s := by
  rw [List.foldlM_append]
  refine bind_eq_ok.trans (exists_congr fun t => and_congr_right fun _ => ?_)
  rw [List.foldlM_cons]
  cases parseLine t line <;> rfl

lemma mediaType_parseLine (h : parseLine s line = .ok s') :
    s'.mediaType = typeAfter s.mediaType line := by
  obtain ⟨r, -, rfl⟩ := parseLine_eq_ok.mp h
  exact (mediaType_apply ..).trans (mediaType_apply ..)

lemma mediaType_foldlM (h : lines.foldlM parseLine {} = .ok s) :
    s.mediaType = typeAfterLines lines := by
  induction lines using List.reverseRecOn generalizing s with
  | nil =>
    cases h
    rfl
  | append_singleton lines line ih =>
    obtain ⟨t, ht, hu⟩ := foldlM_concat_eq_ok.mp h
    rw [mediaType_parseLine hu, ih ht, typeAfterLines, typeAfterLines, List.foldl_append]
    rfl

/-! ## Sections -/

section last
variable {α β : Type*} {f : β → Option α} {l : List β} {b : β}

/-- The last value that an element sets. -/
def lastSet (f : β → Option α) (l : List β) : Option α := (l.filterMap f).getLast?

lemma lastSet_concat : lastSet f (l ++ [b]) = (f b).or (lastSet f l) := by
  rw [lastSet, lastSet, List.filterMap_append]
  cases hb : f b with
  | none => simp [hb]
  | some a => simp [hb]

lemma lastSet_concat_getD (a : α) :
    (lastSet f (l ++ [b])).getD a = (f b).getD ((lastSet f l).getD a) := by
  rw [lastSet_concat]
  cases f b <;> rfl

end last

/-- The entry of an ssrc after edits. -/
def ssrcEntry (ssrcId : UInt32) (edits : List SsrcEdit) : SsrcInfo where
  ssrcId
  cname := (lastSet SsrcEdit.cname edits).getD []
  streamId := (lastSet SsrcEdit.streamId edits).getD []
  trackId := (lastSet SsrcEdit.trackId edits).getD []

/-- The entries of the ssrcs, in the order in which the lines name them first. -/
def ssrcEntries (edits : List (UInt32 × SsrcEdit)) : List SsrcInfo :=
  (firsts (edits.map Prod.fst)).map fun ssrcId =>
    ssrcEntry ssrcId ((edits.filter (·.1 = ssrcId)).map Prod.snd)

lemma ssrcEntry_concat (ssrcId : UInt32) (edits : List SsrcEdit) (e : SsrcEdit) :
    ssrcEntry ssrcId (edits ++ [e]) = e.apply (ssrcEntry ssrcId edits) := by
  rw [ssrcEntry, lastSet_concat_getD, lastSet_concat_getD, lastSet_concat_getD]
  rfl

lemma foldl_applySsrc (edits : List (UInt32 × SsrcEdit)) :
    edits.foldl (fun infos e => applySsrc infos (some e)) [] = ssrcEntries edits := by
  have hgroup := @foldl_upsert _ _ _ _ SsrcInfo.ssrcId Prod.fst
    (fun ssrcId => ({ ssrcId } : SsrcInfo)) (fun e : UInt32 × SsrcEdit => e.2.apply)
    (fun _ => rfl) (fun _ _ => rfl) edits
  refine hgroup.trans (List.map_congr_left fun ssrcId _ => ?_)
  induction edits.filter (·.1 = ssrcId) using List.reverseRecOn with
  | nil => rfl
  | append_singleton es e ih =>
    rw [List.foldl_append, ih, List.map_append, List.map_singleton, ssrcEntry_concat]
    rfl

/-- What the lines of a section set. -/
@[ext] structure SectionValues where
  iceUfrag : Text
  icePwd : Text
  identityFingerprint : Option SSLFingerprint
  ssrcInfo : List SsrcInfo
  ssrcGroups : List SsrcGroup
  deriving DecidableEq, Repr

def sectionValues (rs : List SectionReading) : SectionValues where
  iceUfrag := (lastSet (·.transport.iceUfrag) rs).getD []
  icePwd := (lastSet (·.transport.icePwd) rs).getD []
  identityFingerprint := lastSet (·.transport.identityFingerprint) rs
  ssrcInfo := ssrcEntries (rs.filterMap SectionReading.ssrc)
  ssrcGroups := rs.filterMap SectionReading.ssrcGroup

/-- What a line sets in a section, where it is neither cut nor refused there. -/
def sectionReading (ty : MediaType) (line : Text) : SectionReading :=
  match readSection ty line with
  | .ok r => r
  | .error _ => {}

/-- What the lines of a text set in a section. -/
def valuesIn (ty : MediaType) (lines : List Text) : SectionValues :=
  sectionValues ((sectionLines ty.mid [] lines).map (sectionReading ty))

/-! ## States -/

/-- What a state holds for a section. -/
def ParseState.values (s : ParseState) (ty : MediaType) : SectionValues where
  iceUfrag := (s.td ty).iceUfrag
  icePwd := (s.td ty).icePwd
  identityFingerprint := (s.td ty).identityFingerprint
  ssrcInfo := s.ssrcInfo ty
  ssrcGroups := if ty = .video then s.videoSsrcGroups else []

def SectionValues.add (a : SectionValues) (r : SectionReading) : SectionValues where
  iceUfrag := r.transport.iceUfrag.getD a.iceUfrag
  icePwd := r.transport.icePwd.getD a.icePwd
  identityFingerprint := r.transport.identityFingerprint.or a.identityFingerprint
  ssrcInfo := applySsrc a.ssrcInfo r.ssrc
  ssrcGroups := a.ssrcGroups ++ r.ssrcGroup.toList

lemma values_concat : sectionValues (rs ++ [r]) = (sectionValues rs).add r := by
  refine SectionValues.ext (lastSet_concat_getD _) (lastSet_concat_getD _) lastSet_concat ?_ ?_
  · change ssrcEntries ((rs ++ [r]).filterMap SectionReading.ssrc) =
      applySsrc (ssrcEntries (rs.filterMap SectionReading.ssrc)) r.ssrc
    rw [List.filterMap_append, ← foldl_applySsrc, ← foldl_applySsrc, List.foldl_append,
      List.filterMap_cons]
    cases r.ssrc <;> rfl
  · change (rs ++ [r]).filterMap SectionReading.ssrcGroup =
      rs.filterMap SectionReading.ssrcGroup ++ r.ssrcGroup.toList
    rw [List.filterMap_append, List.filterMap_cons]
    cases r.ssrcGroup <;> rfl

@[simp] lemma SectionValues.add_nothing (a : SectionValues) : a.add {} = a := by
  exact SectionValues.ext rfl rfl Option.none_or rfl (List.append_nil _)

lemma values_apply {r : LineReading} (hr : r.Sound) (mediaType : Text) (s : ParseState)
    (ty : MediaType) : (r.apply mediaType s).values ty = (s.values ty).add (r.inside ty) := by
  obtain ⟨mid, hmid⟩ := td_begin s r.entered ty
  have htd := td_apply r mediaType s ty
  rw [hmid] at htd
  refine SectionValues.ext ?_ ?_ ?_ (ssrcInfo_apply r mediaType s ty) ?_
  · exact congrArg TransportDescription.iceUfrag htd
  · exact congrArg TransportDescription.icePwd htd
  · exact congrArg TransportDescription.identityFingerprint htd
  · cases ty with
    | audio =>
      change [] = [] ++ (r.inside .audio).ssrcGroup.toList
      rw [hr.audio]
      rfl
    | video => exact videoSsrcGroups_apply r mediaType s

/-- A line sets values in the section in which it stands alone. -/
lemma values_parseLine (h : parseLine s line = .ok s') (ty : MediaType) :
    s'.values ty = if s'.mediaType = ty.mid then (s.values ty).add (sectionReading ty line)
      else s.values ty := by
  have htype := mediaType_parseLine h
  obtain ⟨r, hread, hs'⟩ := parseLine_eq_ok.mp h
  have hinside := (readLine_spec hread).2.2 ty
  simp only [← htype, namedType_eq_some] at hinside
  rw [← hs', values_apply (sound_of_readLine hread), hs']
  split at hinside
  · rename_i hty
    rw [if_pos hty, sectionReading, hinside]
  · rename_i hty
    rw [if_neg hty, hinside, SectionValues.add_nothing]

lemma sectionLines_append (mid : Text) {more : List Text} (h : lines.foldlM parseLine s = .ok s') :
    sectionLines mid s.mediaType (lines ++ more) =
      sectionLines mid s.mediaType lines ++ sectionLines mid s'.mediaType more := by
  induction lines generalizing s with
  | nil =>
    cases h
    rfl
  | cons line lines ih =>
    rw [List.foldlM_cons] at h
    obtain ⟨t, ht, h⟩ := bind_eq_ok.mp h
    rw [List.cons_append, sectionLines, sectionLines, (parseLine_spec ht).mediaType]
    dsimp only
    rw [ih h]
    split <;> rfl

lemma valuesIn_concat (hs : lines.foldlM parseLine {} = .ok s) (h : parseLine s line = .ok s') :
    valuesIn ty (lines ++ [line]) =
      if s'.mediaType = ty.mid then (valuesIn ty lines).add (sectionReading ty line)
      else valuesIn ty lines := by
  have happend := @sectionLines_append lines {} s ty.mid [line] hs
  have hline : sectionLines ty.mid s.mediaType [line] =
      if s'.mediaType = ty.mid then [line] else [] := by
    rw [sectionLines, (parseLine_spec h).mediaType]
    rfl
  change sectionLines ty.mid [] (lines ++ [line]) = sectionLines ty.mid [] lines ++ _ at happend
  rw [valuesIn, happend, hline, valuesIn]
  split
  · rw [List.map_append, List.map_singleton, values_concat]
  · rw [List.append_nil]

/-- After some lines, a section holds what they set in it. -/
theorem values_foldlM (h : lines.foldlM parseLine {} = .ok s) (ty : MediaType) :
    s.values ty = valuesIn ty lines := by
  induction lines using List.reverseRecOn generalizing s with
  | nil =>
    cases h
    cases ty <;> rfl
  | append_singleton lines line ih =>
    obtain ⟨t, ht, hu⟩ := foldlM_concat_eq_ok.mp h
    rw [values_parseLine hu, valuesIn_concat ht hu, ih ht]

/-! ## The sections that begin -/

/-- The section that a line begins. -/
def begins (line : Text) : Option MediaType :=
  if MediaLine line then namedType (typeAfter [] line) else none

lemma contents_parseLine (h : parseLine s line = .ok s') :
    s'.contents = s.contents ++ (begins line).toList := by
  obtain ⟨r, hread, rfl⟩ := parseLine_eq_ok.mp h
  have hentered : r.entered = begins line := by
    rw [(readLine_spec hread).2.1, begins]
    refine ite_congr rfl (fun hline => ?_) fun _ => rfl
    rw [typeAfter, if_pos hline, typeAfter, if_pos hline]
  rw [contents_apply, hentered]

lemma contents_foldlM (h : lines.foldlM parseLine {} = .ok s) :
    s.contents = lines.filterMap begins := by
  induction lines using List.reverseRecOn generalizing s with
  | nil =>
    cases h
    rfl
  | append_singleton lines line ih =>
    obtain ⟨t, ht, hu⟩ := foldlM_concat_eq_ok.mp h
    rw [contents_parseLine hu, ih ht, List.filterMap_append, List.filterMap_cons]
    cases begins line <;> rfl

/-- A section that does not begin has no lines. -/
lemma valuesIn_of_notMem (h : lines.foldlM parseLine {} = .ok s) (hty : ty ∉ s.contents) :
    valuesIn ty lines = sectionValues [] := by
  have hlisted : ({} : ParseState).Listed := fun ty hty => by cases ty <;> cases hty
  have hnone : sectionLines ty.mid [] lines = [] :=
    by_contra fun hne => hty ((parseLines_spec h).listed hlisted ty hne)
  rw [valuesIn, hnone]
  rfl

/-! ## Descriptions -/

/-- No line is cut or refused. -/
def Faultless (lines : List Text) : Prop :=
  ∀ x ∈ typedLines [] lines, ¬ LineCut x ∧ ¬ LineRefused x

/-- The loop reads to the end precisely where no line is cut or refused. -/
lemma faultless_iff : Faultless lines ↔ ∃ s, lines.foldlM parseLine {} = .ok s := by
  have hout := parseLines_outcome lines
  generalize lines.foldlM parseLine ({} : ParseState) = result at hout
  cases hout with
  | fault hfault =>
    obtain ⟨pre, x, post, heq, -, hcut⟩ := hfault
    refine iff_of_false (fun h => (h x ?_).1 hcut) nofun
    rw [heq]
    exact List.mem_append_right _ List.mem_cons_self
  | refusal hfault hrefused =>
    obtain ⟨x, hx, hrefused⟩ := hrefused
    exact iff_of_false (fun h => (h x hx).2 hrefused) nofun
  | @ok s hfault hnone hs =>
    refine iff_of_true (fun x hx => ⟨fun hcut => hfault ?_, fun h => hnone ⟨x, hx, h⟩⟩) ⟨s, rfl⟩
    obtain ⟨pre, post, heq⟩ := List.append_of_mem hx
    refine ⟨pre, x, post, heq, fun y hy hrefused => hnone ⟨y, ?_, hrefused⟩, hcut⟩
    rw [heq]
    exact List.mem_append_left _ hy

lemma collected_of_foldlM (h : lines.foldlM parseLine {} = .ok s) :
    Collected (typedLines [] lines) s := by
  have hout := parseLines_outcome lines
  rw [h] at hout
  cases hout with
  | ok _ _ hs => exact hs

/-- The streams show the same. -/
def StreamsAlike : MediaType → SectionValues → SectionValues → Prop
  | .audio, a, b => TracksAlike a.ssrcInfo b.ssrcInfo
  | .video, a, b => VideoAlike a.ssrcInfo a.ssrcGroups b.ssrcInfo b.ssrcGroups

/-- The two show the same in the description. -/
structure ValuesAlike (ty : MediaType) (a b : SectionValues) : Prop where
  iceUfrag : a.iceUfrag = b.iceUfrag
  icePwd : a.icePwd = b.icePwd
  identityFingerprint : a.identityFingerprint = b.identityFingerprint
  streams : StreamsAlike ty a b

lemma ValuesAlike.refl {a : SectionValues} : ValuesAlike ty a a :=
  ⟨rfl, rfl, rfl, by cases ty; exacts [.refl, .refl]⟩

/-- Two texts list the same bundles and begin the same sections, and what they set in each section
shows the same. -/
structure TextsAlike (lines lines' : List Text) : Prop where
  bundles : lines.flatMap bundleGroups = lines'.flatMap bundleGroups
  begins : lines.filterMap begins = lines'.filterMap begins
  values : ∀ ty, ValuesAlike ty (valuesIn ty lines) (valuesIn ty lines')

lemma nodup_valuesIn (ty : MediaType) (lines : List Text) :
    ((valuesIn ty lines).ssrcInfo.map SsrcInfo.ssrcId).Nodup := by
  change ((ssrcEntries _).map SsrcInfo.ssrcId).Nodup
  rw [ssrcEntries, List.map_map]
  exact (nodup_firsts _).map fun _ _ h => h

lemma ssrcs_valuesIn (ty : MediaType) (lines : List Text) :
    ∀ g ∈ (valuesIn ty lines).ssrcGroups, g.ssrcs ≠ [] := by
  intro g hg
  obtain ⟨r, hr, hg⟩ := List.mem_filterMap.mp hg
  obtain ⟨line, -, rfl⟩ := List.mem_map.mp hr
  rw [sectionReading] at hg
  cases hread : readSection ty line with
  | error e =>
    rw [hread] at hg
    cases hg
  | ok r =>
    rw [hread] at hg
    have hgroup := (readSection_eq_ok.mp hread).2.1
    split at hgroup
    · rw [hg] at hgroup
      exact readSsrcGroupLine_ssrcs hgroup
    · rw [hgroup] at hg
      cases hg

lemma connectionRole_foldlM (h : lines.foldlM parseLine {} = .ok s) (ty : MediaType) :
    (s.td ty).connectionRole = .none := by
  induction lines using List.reverseRecOn generalizing s with
  | nil =>
    cases h
    cases ty <;> rfl
  | append_singleton lines line ih =>
    obtain ⟨t, ht, hu⟩ := foldlM_concat_eq_ok.mp h
    obtain ⟨r, -, rfl⟩ := parseLine_eq_ok.mp hu
    obtain ⟨mid, hmid⟩ := td_begin t r.entered ty
    rw [td_apply, hmid]
    exact ih ht

lemma streams_eq_iff (h : lines.foldlM parseLine {} = .ok s)
    (h' : lines'.foldlM parseLine {} = .ok s') (ty : MediaType) :
    (s.content ty).streams = (s'.content ty).streams ↔
      StreamsAlike ty (valuesIn ty lines) (valuesIn ty lines') := by
  have hgroups := ssrcs_valuesIn ty lines
  have hgroups' := ssrcs_valuesIn ty lines'
  have hnodup := nodup_valuesIn ty lines
  have hnodup' := nodup_valuesIn ty lines'
  rw [← values_foldlM h] at hgroups hnodup ⊢
  rw [← values_foldlM h'] at hgroups' hnodup' ⊢
  cases ty with
  | audio => exact createTrackFromSsrcInfo_eq_iff
  | video => exact videoStreams_eq_iff hgroups hgroups' hnodup hnodup'

/-- What a section shows is what its lines set. -/
lemma section_eq_iff (h : lines.foldlM parseLine {} = .ok s)
    (h' : lines'.foldlM parseLine {} = .ok s') (hcontents : s.contents = s'.contents)
    (ty : MediaType) :
    s.content ty = s'.content ty ∧ s.td ty = s'.td ty ↔
      ValuesAlike ty (valuesIn ty lines) (valuesIn ty lines') := by
  have hcontent : s.content ty = s'.content ty ↔
      (s.content ty).streams = (s'.content ty).streams := by
    cases ty <;> simp [ParseState.content]
  have hmid : (s.td ty).mid = (s'.td ty).mid := by
    rw [(collected_of_foldlM h).mid, (collected_of_foldlM h').mid, hcontents]
  have hrole := (connectionRole_foldlM h ty).trans (connectionRole_foldlM h' ty).symm
  have hvalues := values_foldlM h ty
  have hvalues' := values_foldlM h' ty
  rw [hcontent, streams_eq_iff h h', TransportDescription.ext_iff]
  constructor
  · rintro ⟨hstreams, -, hufrag, hpwd, hfp, -⟩
    refine ⟨?_, ?_, ?_, hstreams⟩
    · rwa [← hvalues, ← hvalues']
    · rwa [← hvalues, ← hvalues']
    · rwa [← hvalues, ← hvalues']
  · rintro ⟨hufrag, hpwd, hfp, hstreams⟩
    rw [← hvalues, ← hvalues'] at hufrag hpwd hfp
    exact ⟨hstreams, hmid, hufrag, hpwd, hfp, hrole⟩

lemma contentGroups_foldlM (h : lines.foldlM parseLine {} = .ok s) :
    s.contentGroups = lines.flatMap bundleGroups := by
  refine (collected_of_foldlM h).groups.trans ?_
  rw [← List.flatMap_map, map_snd_typedLines]

/-- This is all that the description shows of a text. -/
theorem description_eq_iff (h : lines.foldlM parseLine {} = .ok s)
    (h' : lines'.foldlM parseLine {} = .ok s') :
    s.description = s'.description ↔ TextsAlike lines lines' := by
  constructor
  · intro hsame
    have hcontents : s.contents = s'.contents := by
      rw [← types_description, hsame, types_description]
    refine ⟨?_, ?_, fun ty => ?_⟩
    · rw [← contentGroups_foldlM h, ← contentGroups_foldlM h']
      exact congrArg SessionDescription.contentGroups hsame
    · rw [← contents_foldlM h, hcontents, contents_foldlM h']
    · by_cases hty : ty ∈ s.contents
      · refine (section_eq_iff h h' hcontents ty).mp ⟨?_, ?_⟩
        · have hmap := congrArg SessionDescription.contents hsame
          rw [contents_description, contents_description, ← hcontents] at hmap
          exact List.map_inj_left.mp hmap ty hty
        · have hinfos := congrArg SessionDescription.transportInfos hsame
          injection hinfos with haudio hvideo
          injection hvideo with hvideo
          cases ty with
          | audio => exact haudio
          | video => exact hvideo
      · rw [valuesIn_of_notMem h hty, valuesIn_of_notMem h' (hcontents ▸ hty)]
        exact .refl
  · intro halike
    have hcontents : s.contents = s'.contents := by
      rw [contents_foldlM h, halike.begins, contents_foldlM h']
    have hsection (ty : MediaType) :=
      (section_eq_iff h h' hcontents ty).mpr (halike.values ty)
    refine SessionDescription.ext ?_ ?_ ?_
    · rw [contents_description, contents_description, hcontents]
      exact List.map_congr_left fun ty _ => (hsection ty).1
    · exact (contentGroups_foldlM h).trans (halike.bundles.trans (contentGroups_foldlM h').symm)
    · exact congrArg₂ (fun audio video => [audio, video]) (hsection .audio).2 (hsection .video).2

end XrtcServer.Sdp
