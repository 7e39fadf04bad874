import XrtcServer.Core.Outcome
import XrtcServer.Sdp.Parser

/-!
# How the reading of an answer ends

`set_remote_sdp` finds its lines by a substring anywhere in them and then cuts them at fixed
positions, and `set_remote_description` dereferences the fingerprint of a section whether or not the
section had one. The conditions below are on the text: which lines are cut beyond their end, which
are refused before that, and which sections need a fingerprint.
-/

namespace XrtcServer.Sdp
open XrtcServer.Base XrtcServer.Core

variable {line sdp : Text} {lines : List Text} {s s' : ParseState} {ty : MediaType}

/-! ## Conditions on a line -/

def MediaLine (line : Text) : Bool :=
  contains line "m=".toList && !contains line "m=group:BUNDLE".toList

/-- The first item of an m-line has no two characters. -/
def MediaCut (line : Text) : Prop :=
  MediaLine line ∧ 2 < (split ' ' line).length ∧ ((split ' ' line).headD []).length < 2

def MediaRefused (line : Text) : Prop := MediaLine line ∧ (split ' ' line).length ≤ 2

/-- The media type from a line on, when it was `mediaType` before. -/
def typeAfter (mediaType line : Text) : Text :=
  if MediaLine line then ((split ' ' line).headD []).drop 2 else mediaType

def FingerprintLine (line : Text) : Prop :=
  contains line "a=fingerprint".toList ∧ ¬ contains line "a=ice-ufrag".toList ∧
    ¬ contains line "a=ice-pwd".toList

/-- The first of two items of a line with a fingerprint has less than 14 characters. -/
def FingerprintCut (line : Text) : Prop :=
  FingerprintLine line ∧ ∃ item content, tokenize ' ' line = [item, content] ∧ item.length < 14

def FingerprintRefused (line : Text) : Prop :=
  FingerprintLine line ∧ ∀ item content, tokenize ' ' line = [item, content] →
    createFingerprint ((item.drop 14).map Char.toLower) content = none

/-- What stands between the second character and the first blank of a line with an ssrc has less
than 5 characters. -/
def SsrcCut (line : Text) : Prop :=
  contains line "a=ssrc:".toList ∧
    ∃ field1 field2, tokenizeFirst ' ' (line.drop 2) = some (field1, field2) ∧ field1.length < 5

def SsrcRefused (line : Text) : Prop :=
  contains line "a=ssrc:".toList ∧
    ∀ field1 field2, tokenizeFirst ' ' (line.drop 2) = some (field1, field2) →
      fromString (field1.drop 5) = none ∨
        ∀ attr value, tokenizeFirst ':' field2 = some (attr, value) →
          attr = "msid".toList ∧ 2 < (split ' ' value).length

def GroupRefused (line : Text) : Prop :=
  contains line "a=ssrc-group:".toList ∧
    ∀ field id ids, split ' ' (line.drop 2) = field :: id :: ids →
      getAttribute field = [] ∨ (id :: ids).mapM fromString = none

/-! ## What the functions do with a line -/

lemma contains_length {source pattern : Text} (h : contains source pattern = true) :
    pattern.length ≤ source.length := (contains_iff.mp h).length_le

lemma substr_outcome (s : Text) (pos : Nat) :
    Outcome SdpError.outOfRange SdpError.rejected (s.length < pos) False (· = s.drop pos)
      (substr s pos) := by
  unfold substr
  by_cases hpos : pos ≤ s.length
  · rw [if_pos hpos]
    exact .ok (Nat.not_lt_of_le hpos) not_false rfl
  · rw [if_neg hpos]
    exact .fault (Nat.lt_of_not_le hpos)

lemma parseTransportInfo_outcome (td : TransportDescription) (line : Text) :
    Outcome SdpError.outOfRange SdpError.rejected (FingerprintCut line) (FingerprintRefused line)
      (fun td' => td'.mid = td.mid ∧ (td'.identityFingerprint.isSome ↔
        td.identityFingerprint.isSome ∨ FingerprintLine line))
      (parseTransportInfo td line) := by
  have hskip : ∀ td' : TransportDescription, td'.mid = td.mid →
      td'.identityFingerprint = td.identityFingerprint → ¬ FingerprintLine line →
      Outcome SdpError.outOfRange SdpError.rejected (FingerprintCut line) (FingerprintRefused line)
        (fun td' => td'.mid = td.mid ∧ (td'.identityFingerprint.isSome ↔
          td.identityFingerprint.isSome ∨ FingerprintLine line)) (.ok td') := by
    intro td' hmid hfp hline
    exact .ok (fun h => hline h.1) (fun h => hline h.1) ⟨hmid, by simp [hfp, hline]⟩
  unfold parseTransportInfo
  by_cases hufrag : contains line "a=ice-ufrag".toList
  · rw [if_pos hufrag]
    exact hskip _ rfl rfl fun h => h.2.1 hufrag
  rw [if_neg hufrag]
  by_cases hpwd : contains line "a=ice-pwd".toList
  · rw [if_pos hpwd]
    exact hskip _ rfl rfl fun h => h.2.2 hpwd
  rw [if_neg hpwd]
  by_cases hfp : contains line "a=fingerprint".toList
  · have hline : FingerprintLine line := ⟨hfp, hufrag, hpwd⟩
    rw [if_pos hfp]
    split
    · rename_i item content htokens
      by_cases hshort : item.length < 14
      · have herror : substr item 14 = .error .outOfRange := if_neg (Nat.not_le_of_lt hshort)
        rw [herror]
        exact .fault ⟨hline, item, content, htokens, hshort⟩
      · have hsubstr : substr item 14 = .ok (item.drop 14) := if_pos (Nat.le_of_not_lt hshort)
        have hkept : ¬ FingerprintCut line := by
          rintro ⟨-, item', content', htokens', hlt⟩
          cases htokens.symm.trans htokens'
          exact hshort hlt
        rw [hsubstr]
        simp only [bind, Except.bind]
        cases hcreate : createFingerprint ((item.drop 14).map Char.toLower) content with
        | none =>
          refine .refusal hkept ⟨hline, fun item' content' htokens' => ?_⟩
          cases htokens.symm.trans htokens'
          exact hcreate
        | some fp =>
          refine .ok hkept (fun hrefused => ?_) ⟨rfl, by simp [hline]⟩
          cases hcreate.symm.trans (hrefused.2 item content htokens)
    · rename_i hother
      refine .refusal ?_ ⟨hline, fun item content htokens => absurd htokens (hother item content)⟩
      rintro ⟨-, item, content, htokens, -⟩
      exact hother item content htokens
  · rw [if_neg hfp]
    exact hskip _ rfl rfl fun h => hfp h.1

lemma parseSsrcInfo_outcome (infos : List SsrcInfo) (line : Text) :
    Outcome SdpError.outOfRange SdpError.rejected (SsrcCut line) (SsrcRefused line) (fun _ => True)
      (parseSsrcInfo infos line) := by
  unfold parseSsrcInfo readSsrcLine
  by_cases hssrc : contains line "a=ssrc:".toList
  · have hlen := contains_length hssrc
    have hsubstr : substr line 2 = .ok (line.drop 2) := if_pos (Nat.le_trans (by decide) hlen)
    rw [if_pos hssrc, hsubstr]
    cases hfields : tokenizeFirst ' ' (line.drop 2) with
    | none =>
      have hkept : ¬ SsrcCut line := by
        rintro ⟨-, field1, field2, hsome, -⟩
        cases hfields.symm.trans hsome
      simp only [bind, Except.bind, hfields]
      exact .refusal hkept ⟨hssrc, by simp [hfields]⟩
    | some fields =>
      obtain ⟨field1, field2⟩ := fields
      have hcut : SsrcCut line ↔ field1.length < 5 := by
        constructor
        · rintro ⟨-, field1', field2', hsome, hlt⟩
          cases hfields.symm.trans hsome
          exact hlt
        · exact fun hlt => ⟨hssrc, field1, field2, hfields, hlt⟩
      by_cases hshort : field1.length < 5
      · have herror : substr field1 5 = .error .outOfRange := if_neg (Nat.not_le_of_lt hshort)
        simp only [bind, Except.bind, hfields, herror]
        exact .fault (hcut.mpr hshort)
      · have hrest : substr field1 5 = .ok (field1.drop 5) := if_pos (Nat.le_of_not_lt hshort)
        have hkept : ¬ SsrcCut line := hcut.not.mpr hshort
        cases hid : fromString (field1.drop 5) with
        | none =>
          simp only [bind, Except.bind, hfields, hrest, hid]
          exact .refusal hkept ⟨hssrc, by simp [hfields, hid]⟩
        | some ssrcId =>
          cases hattr : tokenizeFirst ':' field2 with
          | none =>
            simp only [bind, Except.bind, hfields, hrest, hid, hattr]
            exact .refusal hkept ⟨hssrc, by simp [hfields, hattr]⟩
          | some pair =>
            obtain ⟨attr, value⟩ := pair
            simp only [bind, Except.bind, hfields, hrest, hid, hattr]
            have hrefused : SsrcRefused line ↔
                attr = "msid".toList ∧ 2 < (split ' ' value).length := by
              constructor
              · rintro ⟨-, hall⟩
                exact (hall field1 field2 hfields).resolve_left (by simp [hid]) attr value hattr
              · refine fun hmsid => ⟨hssrc, fun field1' field2' hsome => Or.inr ?_⟩
                cases hfields.symm.trans hsome
                intro attr' value' hpair
                cases hattr.symm.trans hpair
                exact hmsid
            by_cases hmsid : attr = "msid".toList ∧ 2 < (split ' ' value).length
            · simp only [pure, Except.pure, if_pos hmsid]
              exact .refusal hkept (hrefused.mpr hmsid)
            · simp only [pure, Except.pure, if_neg hmsid]
              exact .ok hkept (hrefused.not.mpr hmsid) trivial
  · rw [if_neg hssrc]
    exact .ok (fun h => hssrc h.1) (fun h => hssrc h.1) trivial

lemma parseSsrcGroupInfo_outcome (groups : List SsrcGroup) (line : Text) :
    Outcome SdpError.outOfRange SdpError.rejected False (GroupRefused line) (fun _ => True)
      (parseSsrcGroupInfo groups line) := by
  unfold parseSsrcGroupInfo readSsrcGroupLine
  by_cases hgroup : contains line "a=ssrc-group:".toList
  · have hlen := contains_length hgroup
    have hsubstr : substr line 2 = .ok (line.drop 2) := if_pos (Nat.le_trans (by decide) hlen)
    rw [if_pos hgroup, hsubstr]
    rcases hfields : split ' ' (line.drop 2) with - | ⟨field, - | ⟨id, ids⟩⟩
    · simp only [bind, Except.bind, hfields]
      exact .refusal not_false ⟨hgroup, by simp [hfields]⟩
    · simp only [bind, Except.bind, hfields]
      exact .refusal not_false ⟨hgroup, by simp [hfields]⟩
    · simp only [bind, Except.bind, hfields]
      have hrefused : GroupRefused line ↔
          getAttribute field = [] ∨ (id :: ids).mapM fromString = none := by
        constructor
        · rintro ⟨-, hall⟩
          exact hall field id ids hfields
        · refine fun h => ⟨hgroup, fun field' id' ids' hfields' => ?_⟩
          cases hfields.symm.trans hfields'
          exact h
      by_cases hsemantics : getAttribute field = []
      · rw [if_pos hsemantics]
        exact .refusal not_false (hrefused.mpr (Or.inl hsemantics))
      · rw [if_neg hsemantics]
        cases hids : (id :: ids).mapM fromString with
        | none => exact .refusal not_false (hrefused.mpr (Or.inr hids))
        | some ssrcs =>
          exact .ok not_false (hrefused.not.mpr (by simp [hsemantics, hids])) trivial
  · rw [if_neg hgroup]
    exact .ok not_false (fun h => hgroup h.1) trivial

lemma mediaLine_of_bundle (h : contains line "m=group:BUNDLE".toList = true) :
    MediaLine line = false := by
  rw [MediaLine, h, Bool.not_true, Bool.and_false]

lemma mediaLine_of_m (hbundle : ¬ contains line "m=group:BUNDLE".toList = true)
    (hm : contains line "m=".toList = true) : MediaLine line = true := by
  rw [MediaLine, hm, Bool.eq_false_iff.mpr hbundle]
  rfl

lemma mediaLine_of_other (h : ¬ contains line "m=".toList = true) : MediaLine line = false := by
  rw [MediaLine, Bool.eq_false_iff.mpr h, Bool.false_and]

lemma nextMediaType_outcome (mediaType line : Text) :
    Outcome SdpError.outOfRange SdpError.rejected (MediaCut line) (MediaRefused line)
      (· = typeAfter mediaType line) (nextMediaType mediaType line) := by
  unfold nextMediaType
  by_cases hbundle : contains line "m=group:BUNDLE".toList
  · have hline := mediaLine_of_bundle hbundle
    rw [if_pos hbundle]
    exact .ok (by simp [MediaCut, hline]) (by simp [MediaRefused, hline])
      (by simp [typeAfter, hline])
  rw [if_neg hbundle]
  by_cases hm : contains line "m=".toList
  · have hline := mediaLine_of_m hbundle hm
    rw [if_pos hm]
    rcases hitems : split ' ' line with - | ⟨item, - | ⟨i, - | ⟨j, items⟩⟩⟩
    · exact .refusal (by simp [MediaCut, hitems]) ⟨hline, by simp [hitems]⟩
    · exact .refusal (by simp [MediaCut, hitems]) ⟨hline, by simp [hitems]⟩
    · exact .refusal (by simp [MediaCut, hitems]) ⟨hline, by simp [hitems]⟩
    · refine ((substr_outcome item 2).congr ?_ fun _ => ?_).mono ?_
      · simp [MediaCut, hline, hitems]
      · simp [MediaRefused, hitems]
      · rintro _ rfl
        simp [typeAfter, hline, hitems]
  · have hline := mediaLine_of_other hm
    rw [if_neg hm]
    exact .ok (by simp [MediaCut, hline]) (by simp [MediaRefused, hline])
      (by simp [typeAfter, hline])

/-! ## Conditions on a text -/

/-- The lines from one on, each with the media type that it is read under. -/
def typedLines : Text → List Text → List (Text × Text)
  | _, [] => []
  | mediaType, line :: lines =>
    (typeAfter mediaType line, line) :: typedLines (typeAfter mediaType line) lines

def readLines (sdp : Text) : List (Text × Text) := typedLines [] (sdpLines sdp)

/-- The reading of the line ends beyond the line, where it is not refused before. -/
def LineCut (x : Text × Text) : Prop :=
  MediaCut x.2 ∨ ¬ MediaRefused x.2 ∧ (∃ ty : MediaType, x.1 = ty.mid) ∧
    (FingerprintCut x.2 ∨ ¬ FingerprintRefused x.2 ∧
      ¬ (x.1 = MediaType.video.mid ∧ GroupRefused x.2) ∧ SsrcCut x.2)

/-- `set_remote_sdp` returns -1 at the line, where the line is not cut. -/
def LineRefused (x : Text × Text) : Prop :=
  MediaRefused x.2 ∨ (∃ ty : MediaType, x.1 = ty.mid) ∧
    (FingerprintRefused x.2 ∨ x.1 = MediaType.video.mid ∧ GroupRefused x.2 ∨ SsrcRefused x.2)

/-- The content names that the lines with a bundle group list, in their order. -/
def bundleNames (line : Text) : List Text :=
  if contains line "m=group:BUNDLE".toList then (split ' ' line).tail else []

/-- The section `ty` shares the transport of another one, which comes first in the bundle. -/
def Rides (sdp : Text) (ty : MediaType) : Prop :=
  ty.mid ∈ (sdpLines sdp).flatMap bundleNames ∧
    ((sdpLines sdp).flatMap bundleNames).head? ≠ some ty.mid

/-- The text has a section `ty`. -/
def HasSection (sdp : Text) (ty : MediaType) : Prop := ∃ x ∈ readLines sdp, x.1 = ty.mid

/-- The section `ty` has a line with a fingerprint. -/
def HasFingerprint (sdp : Text) (ty : MediaType) : Prop :=
  ∃ x ∈ readLines sdp, x.1 = ty.mid ∧ FingerprintLine x.2

/-- No line is cut unless one before it is refused, and where none is refused, each section with a
DTLS transport that shares no other one's transport has a fingerprint. -/
def Readable (dtlsTransport : Text → Bool) (sdp : Text) : Prop :=
  ¬ FirstFault LineCut LineRefused (readLines sdp) ∧
    ((∀ x ∈ readLines sdp, ¬ LineRefused x) → ∀ ty, HasSection sdp ty → dtlsTransport ty.mid →
      ¬ Rides sdp ty → HasFingerprint sdp ty)

/-! ## What the loop collects -/

def ParseState.td (s : ParseState) : MediaType → TransportDescription
  | .audio => s.audioTd
  | .video => s.videoTd

/-- The group that a line adds. -/
def bundleGroups (line : Text) : List ContentGroup :=
  if bundleNames line = [] then []
  else [(bundleNames line).foldl ContentGroup.addContentName ⟨SessionDescription.bundle, []⟩]

/-- What a line does before its section reads it. -/
structure MediaOutcome (s : ParseState) (line : Text) (s' : ParseState) : Prop where
  mediaType : s'.mediaType = typeAfter s.mediaType line
  contents : ∀ ty : MediaType, ty ∈ s'.contents ↔
    ty ∈ s.contents ∨ MediaLine line ∧ s'.mediaType = ty.mid
  groups : s'.contentGroups = s.contentGroups ++ bundleGroups line
  fingerprint : ∀ ty, (s'.td ty).identityFingerprint = (s.td ty).identityFingerprint
  mid : ∀ ty : MediaType, (s'.td ty).mid =
    if MediaLine line ∧ s'.mediaType = ty.mid then ty.mid else (s.td ty).mid

/-- The state after an m-line of a media type. -/
def ParseState.enter (s : ParseState) (mediaType : Text) : ParseState :=
  if mediaType = MediaType.audio.mid then
    { s with
      mediaType
      contents := s.contents ++ [.audio]
      audioTd := { s.audioTd with mid := MediaType.audio.mid } }
  else if mediaType = MediaType.video.mid then
    { s with
      mediaType
      contents := s.contents ++ [.video]
      videoTd := { s.videoTd with mid := MediaType.video.mid } }
  else { s with mediaType }

/-- The state after a line without its section. -/
def ParseState.afterMedia (s : ParseState) (mediaType line : Text) : ParseState :=
  if MediaLine line then s.enter mediaType
  else { s with contentGroups := s.contentGroups ++ bundleGroups line }

lemma bundleGroups_of_other (h : ¬ contains line "m=group:BUNDLE".toList = true) :
    bundleGroups line = [] := by
  rw [bundleGroups, bundleNames, if_neg h, if_pos rfl]

lemma parseMediaLine_eq (s : ParseState) (line : Text) :
    parseMediaLine s line = (nextMediaType s.mediaType line).map (s.afterMedia · line) := by
  unfold parseMediaLine
  cases nextMediaType s.mediaType line with
  | error e => rfl
  | ok mediaType =>
    change _ = Except.ok (s.afterMedia mediaType line)
    by_cases hbundle : contains line "m=group:BUNDLE".toList
    · rw [ParseState.afterMedia, mediaLine_of_bundle hbundle, if_neg (by decide), bundleGroups,
        bundleNames, if_pos hbundle]
      simp only [bind, Except.bind, if_pos hbundle]
      rcases split ' ' line with - | ⟨item, - | ⟨name, names⟩⟩
      · rw [List.tail_nil, if_pos rfl, List.append_nil]
        rfl
      · rw [List.tail_cons, if_pos rfl, List.append_nil]
        rfl
      · rw [List.tail_cons, if_neg (by simp)]
        rfl
    · simp only [bind, Except.bind, if_neg hbundle]
      by_cases hm : contains line "m=".toList
      · rw [ParseState.afterMedia, mediaLine_of_m hbundle hm, if_pos rfl, if_pos hm,
          ParseState.enter]
        split_ifs <;> rfl
      · rw [ParseState.afterMedia, mediaLine_of_other hm, if_neg hm, if_neg (by decide),
          bundleGroups_of_other hbundle, List.append_nil]
        rfl

lemma mediaOutcome_enter (hline : MediaLine line = true) {mediaType : Text}
    (htype : mediaType = typeAfter s.mediaType line) : MediaOutcome s line (s.enter mediaType) := by
  have hbundle : ¬ contains line "m=group:BUNDLE".toList = true := by
    intro h
    rw [mediaLine_of_bundle h] at hline
    cases hline
  have hnone := bundleGroups_of_other hbundle
  unfold ParseState.enter
  split
  · rename_i haudio
    refine ⟨htype, fun ty => ?_, by rw [hnone, List.append_nil], fun ty => ?_, fun ty => ?_⟩
    · simp [hline, haudio, MediaType.mid_inj, eq_comm]
    · cases ty <;> rfl
    · cases ty <;> simp [hline, haudio, MediaType.mid_inj, ParseState.td]
  · rename_i haudio
    split
    · rename_i hvideo
      refine ⟨htype, fun ty => ?_, by rw [hnone, List.append_nil], fun ty => ?_, fun ty => ?_⟩
      · simp [hline, hvideo, MediaType.mid_inj, eq_comm]
      · cases ty <;> rfl
      · cases ty <;> simp [hline, hvideo, MediaType.mid_inj, ParseState.td]
    · rename_i hvideo
      have hother : ∀ ty : MediaType, mediaType ≠ ty.mid := by
        intro ty
        cases ty with
        | audio => exact haudio
        | video => exact hvideo
      refine ⟨htype, fun ty => ?_, by rw [hnone, List.append_nil], fun ty => ?_, fun ty => ?_⟩
      · simp [hother ty]
      · cases ty <;> rfl
      · rw [if_neg fun h => hother ty h.2]
        cases ty <;> rfl

lemma mediaOutcome_afterMedia {mediaType : Text} (htype : mediaType = typeAfter s.mediaType line) :
    MediaOutcome s line (s.afterMedia mediaType line) := by
  unfold ParseState.afterMedia
  by_cases hline : MediaLine line = true
  · rw [if_pos hline]
    exact mediaOutcome_enter hline htype
  · rw [if_neg hline]
    have hsame : typeAfter s.mediaType line = s.mediaType := if_neg hline
    exact ⟨hsame.symm, fun ty => by simp [hline], rfl, fun ty => by cases ty <;> rfl,
      fun ty => by cases ty <;> simp [hline, ParseState.td]⟩

lemma parseMediaLine_outcome (s : ParseState) (line : Text) :
    Outcome SdpError.outOfRange SdpError.rejected (MediaCut line) (MediaRefused line)
      (MediaOutcome s line) (parseMediaLine s line) := by
  have hnext := nextMediaType_outcome s.mediaType line
  rw [parseMediaLine_eq]
  generalize nextMediaType s.mediaType line = r at hnext
  cases hnext with
  | fault h => exact .fault h
  | refusal h h' => exact .refusal h h'
  | ok h h' htype => exact .ok h h' (mediaOutcome_afterMedia htype)

/-- What a line does, in terms of the media type that it is read under. -/
structure LineOutcome (s : ParseState) (line : Text) (s' : ParseState) : Prop where
  mediaType : s'.mediaType = typeAfter s.mediaType line
  contents : ∀ ty : MediaType, ty ∈ s'.contents ↔
    ty ∈ s.contents ∨ MediaLine line ∧ s'.mediaType = ty.mid
  groups : s'.contentGroups = s.contentGroups ++ bundleGroups line
  fingerprint : ∀ ty : MediaType, (s'.td ty).identityFingerprint.isSome ↔
    (s.td ty).identityFingerprint.isSome ∨ s'.mediaType = ty.mid ∧ FingerprintLine line
  mid : ∀ ty : MediaType, (s'.td ty).mid =
    if MediaLine line ∧ s'.mediaType = ty.mid then ty.mid else (s.td ty).mid

variable {t : ParseState}

lemma MediaOutcome.lineOutcome (h : MediaOutcome s line t) (htype : s'.mediaType = t.mediaType)
    (hcontents : s'.contents = t.contents) (hgroups : s'.contentGroups = t.contentGroups)
    (hmid : ∀ ty, (s'.td ty).mid = (t.td ty).mid)
    (hfp : ∀ ty : MediaType, (s'.td ty).identityFingerprint.isSome ↔
      (t.td ty).identityFingerprint.isSome ∨ t.mediaType = ty.mid ∧ FingerprintLine line) :
    LineOutcome s line s' where
  mediaType := htype.trans h.mediaType
  contents ty := by rw [hcontents, htype, h.contents]
  groups := hgroups.trans h.groups
  fingerprint ty := by rw [hfp, h.fingerprint, htype]
  mid ty := by rw [hmid, h.mid, htype]

lemma MediaOutcome.section_audio (h : MediaOutcome s line t)
    (haudio : t.mediaType = MediaType.audio.mid) :
    Outcome SdpError.outOfRange SdpError.rejected
      (FingerprintCut line ∨ ¬ FingerprintRefused line ∧ SsrcCut line)
      (FingerprintRefused line ∨ SsrcRefused line) (LineOutcome s line)
      (do
        let audioTd ← parseTransportInfo t.audioTd line
        let audioSsrcInfo ← parseSsrcInfo t.audioSsrcInfo line
        return { t with audioTd, audioSsrcInfo }) := by
  have hline : ∀ td infos, (td.mid = t.audioTd.mid ∧ (td.identityFingerprint.isSome ↔
      t.audioTd.identityFingerprint.isSome ∨ FingerprintLine line)) →
      LineOutcome s line { t with audioTd := td, audioSsrcInfo := infos } := by
    intro td infos htd
    refine h.lineOutcome rfl rfl rfl (fun ty => ?_) fun ty => ?_
    · cases ty with
      | audio => exact htd.1
      | video => rfl
    · cases ty with
      | audio => exact htd.2.trans (by simp [haudio, ParseState.td])
      | video => simp [haudio, ParseState.td, MediaType.mid_inj]
  exact ((parseTransportInfo_outcome t.audioTd line).bind fun td htd =>
    (parseSsrcInfo_outcome t.audioSsrcInfo line).bind fun infos _ =>
      .pure (hline td infos htd)).congr (by simp) fun _ => by simp

lemma MediaOutcome.section_video (h : MediaOutcome s line t)
    (hvideo : t.mediaType = MediaType.video.mid) :
    Outcome SdpError.outOfRange SdpError.rejected
      (FingerprintCut line ∨ ¬ FingerprintRefused line ∧ ¬ GroupRefused line ∧ SsrcCut line)
      (FingerprintRefused line ∨ GroupRefused line ∨ SsrcRefused line) (LineOutcome s line)
      (do
        let videoTd ← parseTransportInfo t.videoTd line
        let videoSsrcGroups ← parseSsrcGroupInfo t.videoSsrcGroups line
        let videoSsrcInfo ← parseSsrcInfo t.videoSsrcInfo line
        return { t with videoTd, videoSsrcGroups, videoSsrcInfo }) := by
  have hline : ∀ td groups infos, (td.mid = t.videoTd.mid ∧ (td.identityFingerprint.isSome ↔
      t.videoTd.identityFingerprint.isSome ∨ FingerprintLine line)) →
      LineOutcome s line
        { t with videoTd := td, videoSsrcGroups := groups, videoSsrcInfo := infos } := by
    intro td groups infos htd
    refine h.lineOutcome rfl rfl rfl (fun ty => ?_) fun ty => ?_
    · cases ty with
      | audio => rfl
      | video => exact htd.1
    · cases ty with
      | audio => simp [hvideo, ParseState.td, MediaType.mid_inj]
      | video => exact htd.2.trans (by simp [hvideo, ParseState.td])
  exact ((parseTransportInfo_outcome t.videoTd line).bind fun td htd =>
    (parseSsrcGroupInfo_outcome t.videoSsrcGroups line).bind fun groups _ =>
      (parseSsrcInfo_outcome t.videoSsrcInfo line).bind fun infos _ =>
        .pure (hline td groups infos htd)).congr (by simp) fun _ => by simp

lemma parseLine_outcome (s : ParseState) (line : Text) :
    Outcome SdpError.outOfRange SdpError.rejected (LineCut (typeAfter s.mediaType line, line))
      (LineRefused (typeAfter s.mediaType line, line)) (LineOutcome s line) (parseLine s line) := by
  unfold parseLine
  refine (parseMediaLine_outcome s line).bind fun t ht => ?_
  have htype := ht.mediaType
  have hne : MediaType.video.mid ≠ MediaType.audio.mid := mt MediaType.mid_inj.mp (by decide)
  by_cases haudio : t.mediaType = MediaType.audio.mid
  · have hsection : ∃ ty : MediaType, typeAfter s.mediaType line = ty.mid :=
      ⟨.audio, htype.symm.trans haudio⟩
    have hvideo : ¬ typeAfter s.mediaType line = MediaType.video.mid := by
      rw [← htype, haudio]
      exact hne.symm
    rw [if_pos haudio]
    exact (ht.section_audio haudio).congr (by simp [hsection, hvideo])
      fun _ => by simp [hsection, hvideo]
  · rw [if_neg haudio]
    by_cases hvideo : t.mediaType = MediaType.video.mid
    · have htype' := htype.symm.trans hvideo
      rw [if_pos hvideo]
      exact (ht.section_video hvideo).congr (by simp [htype']) fun _ => by simp [htype']
    · have hsection : ¬ ∃ ty : MediaType, typeAfter s.mediaType line = ty.mid := by
        rintro ⟨ty, hty⟩
        cases ty with
        | audio => exact haudio (htype.trans hty)
        | video => exact hvideo (htype.trans hty)
      rw [if_neg hvideo]
      have hline : LineOutcome s line t := by
        refine ht.lineOutcome rfl rfl rfl (fun _ => rfl) fun ty => ?_
        have hother : t.mediaType ≠ ty.mid := fun hty => hsection ⟨ty, htype.symm.trans hty⟩
        simp [hother]
      exact (Outcome.pure hline).congr (by simp [hsection]) fun _ => by simp [hsection]

/-! ## What the lines lead to -/

/-- The media type after the lines. -/
def lastType (xs : List (Text × Text)) : Text := (xs.getLast?.map Prod.fst).getD []

/-- What the loop has collected from the lines that it has read. -/
structure Collected (xs : List (Text × Text)) (s : ParseState) : Prop where
  mediaType : s.mediaType = lastType xs
  contents : ∀ ty : MediaType, ty ∈ s.contents ↔ ∃ x ∈ xs, x.1 = ty.mid
  groups : s.contentGroups = xs.flatMap fun x => bundleGroups x.2
  fingerprint : ∀ ty : MediaType, (s.td ty).identityFingerprint.isSome ↔
    ∃ x ∈ xs, x.1 = ty.mid ∧ FingerprintLine x.2
  mid : ∀ ty : MediaType, (s.td ty).mid = if ty ∈ s.contents then ty.mid else []

lemma collected_nil : Collected [] {} where
  mediaType := rfl
  contents := by simp
  groups := rfl
  fingerprint ty := by cases ty <;> simp [ParseState.td]
  mid ty := by cases ty <;> rfl

lemma lastType_append (xs : List (Text × Text)) (x : Text × Text) : lastType (xs ++ [x]) = x.1 := by
  simp [lastType]

lemma map_snd_typedLines (mediaType : Text) (lines : List Text) :
    (typedLines mediaType lines).map Prod.snd = lines := by
  induction lines generalizing mediaType with
  | nil => rfl
  | cons line lines ih => rw [typedLines, List.map_cons, ih]

/-- Each line is read under the media type that it leads to from the one before. -/
lemma typedLines_split {lines : List Text} {mediaType : Text} {pre post : List (Text × Text)}
    {x : Text × Text} (h : typedLines mediaType lines = pre ++ x :: post) :
    x.1 = typeAfter ((pre.getLast?.map Prod.fst).getD mediaType) x.2 := by
  induction lines generalizing mediaType pre with
  | nil => cases pre <;> cases h
  | cons line lines ih =>
    rcases pre with - | ⟨y, pre⟩
    · cases h
      rfl
    · rw [typedLines, List.cons_append, List.cons.injEq] at h
      obtain ⟨rfl, h⟩ := h
      have hx := ih h
      rcases pre with - | ⟨z, pre⟩
      · exact hx
      · rwa [List.getLast?_cons_cons]

lemma exists_of_lastType {xs : List (Text × Text)} (h : lastType xs = ty.mid) :
    ∃ x ∈ xs, x.1 = ty.mid := by
  unfold lastType at h
  cases hlast : xs.getLast? with
  | none =>
    rw [hlast] at h
    cases ty <;> cases h
  | some x =>
    rw [hlast] at h
    exact ⟨x, List.mem_of_getLast? hlast, h⟩

lemma exists_append {p : Text × Text → Prop} {xs : List (Text × Text)} {x : Text × Text} :
    (∃ y ∈ xs ++ [x], p y) ↔ (∃ y ∈ xs, p y) ∨ p x := by
  simp only [List.mem_append, List.mem_singleton, or_and_right, exists_or, exists_eq_left]

lemma Collected.step {xs : List (Text × Text)} (h : Collected xs s)
    (hline : LineOutcome s line s') :
    Collected (xs ++ [(typeAfter (lastType xs) line, line)]) s' := by
  have htype : s'.mediaType = typeAfter (lastType xs) line := by rw [hline.mediaType, h.mediaType]
  have hcontents : ∀ ty : MediaType, ty ∈ s'.contents ↔
      ty ∈ s.contents ∨ typeAfter (lastType xs) line = ty.mid := by
    intro ty
    rw [hline.contents, htype]
    by_cases hmedia : MediaLine line
    · simp only [hmedia, true_and]
    · have hsame : typeAfter (lastType xs) line = lastType xs := if_neg hmedia
      rw [hsame]
      constructor
      · rintro (hmem | ⟨hm, -⟩)
        · exact Or.inl hmem
        · exact absurd hm hmedia
      · rintro (hmem | hlast)
        · exact Or.inl hmem
        · exact Or.inl ((h.contents ty).mpr (exists_of_lastType hlast))
  refine ⟨?_, fun ty => ?_, ?_, fun ty => ?_, fun ty => ?_⟩
  · rw [lastType_append, htype]
  · rw [hcontents, h.contents, exists_append]
  · rw [hline.groups, h.groups, List.flatMap_append, List.flatMap_singleton]
  · rw [hline.fingerprint, h.fingerprint, htype, exists_append]
  · rw [hline.mid, h.mid]
    by_cases hentered : MediaLine line ∧ s'.mediaType = ty.mid
    · rw [if_pos hentered, if_pos ((hline.contents ty).mpr (Or.inr hentered))]
    · have hmem : ty ∈ s'.contents ↔ ty ∈ s.contents :=
        (hline.contents ty).trans (or_iff_left hentered)
      rw [if_neg hentered]
      simp only [hmem]

/-- The loop stops at the first line that is cut or refused, or it collects from all lines. -/
lemma parseLines_outcome (lines : List Text) :
    Outcome SdpError.outOfRange SdpError.rejected
      (FirstFault LineCut LineRefused (typedLines [] lines)) (∃ x ∈ typedLines [] lines, LineRefused x)
      (Collected (typedLines [] lines)) (lines.foldlM parseLine ({} : ParseState)) := by
  have hfold : lines.foldlM parseLine ({} : ParseState) =
      (typedLines [] lines).foldlM (fun s x => parseLine s x.2) {} := by
    conv_lhs => rw [← map_snd_typedLines [] lines]
    rw [List.foldlM_map]
  rw [hfold]
  refine Outcome.foldlM (typedLines [] lines) [] ({} : ParseState) (fun pre x post s heq hs => ?_)
    collected_nil
  have hx : x = (typeAfter (lastType pre) x.2, x.2) := Prod.ext (typedLines_split heq) rfl
  have hout := parseLine_outcome s x.2
  rw [hs.mediaType, ← hx] at hout
  refine hout.mono fun s' hline => ?_
  have hcollected := hs.step hline
  rwa [← hx] at hcollected

/-! ## The bundle -/

section bundle
variable {g : ContentGroup} {name mid : Text} {names : List Text}

lemma semantics_foldl_addContentName :
    (names.foldl ContentGroup.addContentName g).semantics = g.semantics := by
  induction names generalizing g with
  | nil => rfl
  | cons name names ih =>
    rw [List.foldl_cons, ih, ContentGroup.addContentName]
    split <;> rfl

lemma mem_foldl_addContentName :
    mid ∈ (names.foldl ContentGroup.addContentName g).contentNames ↔
      mid ∈ g.contentNames ∨ mid ∈ names := by
  induction names generalizing g with
  | nil => simp
  | cons name names ih =>
    rw [List.foldl_cons, ih, ContentGroup.addContentName]
    split
    · rename_i hmem
      rw [List.mem_cons]
      constructor
      · exact Or.imp_right Or.inr
      · rintro (h | rfl | h)
        · exact Or.inl h
        · exact Or.inl hmem
        · exact Or.inr h
    · simp [or_assoc]

lemma head?_foldl_addContentName :
    (names.foldl ContentGroup.addContentName g).contentNames.head? =
      (g.contentNames ++ names).head? := by
  induction names generalizing g with
  | nil => simp
  | cons name names ih =>
    rw [List.foldl_cons, ih, ContentGroup.addContentName]
    split
    · rename_i hmem
      cases hnames : g.contentNames with
      | nil =>
        rw [hnames] at hmem
        cases hmem
      | cons first rest => rfl
    · simp

lemma bundle_of_mem_bundleGroups (h : g ∈ bundleGroups line) :
    g = (bundleNames line).foldl ContentGroup.addContentName ⟨SessionDescription.bundle, []⟩ ∧
      bundleNames line ≠ [] := by
  unfold bundleGroups at h
  split at h
  · cases h
  · rename_i hne
    exact ⟨List.mem_singleton.mp h, hne⟩

variable {d : SessionDescription}

lemma getGroupByName_bundle (h : d.contentGroups = lines.flatMap bundleGroups) :
    d.getGroupByName SessionDescription.bundle = lines.flatMap bundleGroups := by
  rw [SessionDescription.getGroupByName, h, List.filter_eq_self]
  intro g hg
  obtain ⟨line, -, hg⟩ := List.mem_flatMap.mp hg
  rw [(bundle_of_mem_bundleGroups hg).1, semantics_foldl_addContentName]
  exact decide_eq_true rfl

lemma isBundle_iff (h : d.contentGroups = lines.flatMap bundleGroups) :
    d.isBundle mid = true ↔ mid ∈ lines.flatMap bundleNames := by
  rw [SessionDescription.isBundle, getGroupByName_bundle h, List.any_eq_true]
  simp only [List.mem_flatMap, List.contains_iff_mem]
  constructor
  · rintro ⟨g, ⟨line, hline, hg⟩, hmid⟩
    rw [(bundle_of_mem_bundleGroups hg).1, mem_foldl_addContentName] at hmid
    exact ⟨line, hline, hmid.resolve_left (by simp)⟩
  · rintro ⟨line, hline, hmid⟩
    have hg : (bundleNames line).foldl ContentGroup.addContentName ⟨SessionDescription.bundle, []⟩ ∈
        bundleGroups line := by
      rw [bundleGroups, if_neg (List.ne_nil_of_mem hmid)]
      exact List.mem_singleton_self _
    exact ⟨_, ⟨line, hline, hg⟩, mem_foldl_addContentName.mpr (Or.inr hmid)⟩

lemma head?_bundleGroups (hne : lines.flatMap bundleNames ≠ []) :
    ∃ g gs, lines.flatMap bundleGroups = g :: gs ∧
      g.contentNames.head? = (lines.flatMap bundleNames).head? := by
  induction lines with
  | nil => exact absurd rfl hne
  | cons line lines ih =>
    rw [List.flatMap_cons] at hne ⊢
    rw [List.flatMap_cons]
    cases hnames : bundleNames line with
    | nil =>
      rw [hnames, List.nil_append] at hne
      obtain ⟨g, gs, heq, hhead⟩ := ih hne
      refine ⟨g, gs, ?_, by rw [hhead, List.nil_append]⟩
      rw [bundleGroups, if_pos hnames, List.nil_append, heq]
    | cons name names =>
      refine ⟨_, _, by rw [bundleGroups, hnames, if_neg (by simp), List.singleton_append], ?_⟩
      rw [head?_foldl_addContentName]
      rfl

lemma getFirstBundleMid_eq (h : d.contentGroups = lines.flatMap bundleGroups)
    (hne : lines.flatMap bundleNames ≠ []) :
    d.getFirstBundleMid = (lines.flatMap bundleNames).head? := by
  obtain ⟨g, gs, heq, hhead⟩ := head?_bundleGroups hne
  rw [SessionDescription.getFirstBundleMid, getGroupByName_bundle h, heq, ← hhead]

end bundle

/-! ## The fingerprints -/

/-- The section `ty` needs a fingerprint for its DTLS transport and has none. -/
def LacksFingerprint (dtlsTransport : Text → Bool) (sdp : Text) (ty : MediaType) : Prop :=
  dtlsTransport ty.mid ∧ ¬ Rides sdp ty ∧ ¬ HasFingerprint sdp ty

section fingerprints
variable {dtlsTransport : Text → Bool}

lemma Collected.groups_eq (h : Collected (readLines sdp) s) :
    s.description.contentGroups = (sdpLines sdp).flatMap bundleGroups := by
  refine h.groups.trans ?_
  rw [← List.flatMap_map, readLines, map_snd_typedLines]

lemma Collected.rides_iff (h : Collected (readLines sdp) s) :
    (s.description.isBundle ty.mid = true ∧ some ty.mid ≠ s.description.getFirstBundleMid) ↔
      Rides sdp ty := by
  rw [isBundle_iff h.groups_eq]
  refine and_congr_right fun hmem => ?_
  rw [getFirstBundleMid_eq h.groups_eq (List.ne_nil_of_mem hmem)]
  exact ne_comm

lemma Collected.getTransportInfo (h : Collected (readLines sdp) s) (hty : ty ∈ s.contents) :
    s.description.getTransportInfo ty.mid = some (s.td ty) := by
  have hmid : ∀ ty', (s.td ty').mid = ty.mid ↔ ty' = ty := by
    intro ty'
    rw [h.mid]
    by_cases heq : ty' = ty
    · simp [heq, hty]
    · have hempty : [] ≠ ty.mid := by cases ty <;> decide
      split
      · exact MediaType.mid_inj
      · exact iff_of_false hempty heq
  rw [SessionDescription.getTransportInfo]
  have haudio := hmid .audio
  have hvideo := hmid .video
  cases ty with
  | audio =>
    exact List.find?_cons_of_pos (by simpa [ParseState.td] using haudio)
  | video =>
    refine (List.find?_cons_of_neg (by simpa [ParseState.td] using haudio)).trans ?_
    exact List.find?_cons_of_pos (by simpa [ParseState.td] using hvideo)

lemma Collected.setRemoteContent (h : Collected (readLines sdp) s) (hty : ty ∈ s.contents) :
    Outcome SdpError.nullFingerprint SdpError.rejected (LacksFingerprint dtlsTransport sdp ty) False
      (fun _ => True) (setRemoteContent dtlsTransport s.description ty.mid) := by
  unfold Sdp.setRemoteContent
  by_cases hrides : Rides sdp ty
  · rw [if_pos (h.rides_iff.mpr hrides)]
    exact .ok (fun hlacks => hlacks.2.1 hrides) not_false trivial
  rw [if_neg (h.rides_iff.not.mpr hrides), h.getTransportInfo hty]
  have hfp : (s.td ty).identityFingerprint = none ↔ ¬ HasFingerprint sdp ty := by
    rw [HasFingerprint, ← h.fingerprint ty, Option.isSome_iff_ne_none, not_not]
  dsimp only
  by_cases hlacks : dtlsTransport ty.mid ∧ (s.td ty).identityFingerprint = none
  · rw [if_pos hlacks]
    exact .fault ⟨hlacks.1, hrides, hfp.mp hlacks.2⟩
  · rw [if_neg hlacks]
    exact .ok (fun h' => hlacks ⟨h'.1, hfp.mpr h'.2.2⟩) not_false trivial

lemma mem_description_contents {c : MediaContentDescription} (hc : c ∈ s.description.contents) :
    c.type ∈ s.contents := by
  obtain ⟨ty, hty, rfl⟩ := List.mem_map.mp hc
  cases ty <;> exact hty

lemma exists_description_content (hty : ty ∈ s.contents) :
    ∃ c ∈ s.description.contents, c.type = ty :=
  ⟨_, List.mem_map_of_mem hty, by cases ty <;> rfl⟩

lemma Collected.setRemoteContents (h : Collected (readLines sdp) s)
    (dtlsTransport : Text → Bool) :
    Outcome SdpError.nullFingerprint SdpError.rejected
      (∃ ty ∈ s.contents, LacksFingerprint dtlsTransport sdp ty) False (fun _ => True)
      (s.description.contents.forM fun content =>
        Sdp.setRemoteContent dtlsTransport s.description content.type.mid) := by
  refine (Outcome.forM s.description.contents fun c hc =>
    h.setRemoteContent (mem_description_contents hc)).congr ?_ fun _ => by simp
  rw [firstFault_of_never]
  constructor
  · rintro ⟨c, hc, hlacks⟩
    exact ⟨c.type, mem_description_contents hc, hlacks⟩
  · rintro ⟨ty, hty, hlacks⟩
    obtain ⟨c, hc, rfl⟩ := exists_description_content hty
    exact ⟨c, hc, hlacks⟩

end fingerprints

/-- The call returned 0 or -1. -/
def Returns {α : Type} (r : Except SdpError α) : Prop := (∃ a, r = .ok a) ∨ r = .error .rejected

/-- Whatever the text and whatever transports the local description created, reading an answer ends
with a result precisely when the text is readable. -/
theorem setRemoteSdp_returns_iff (dtlsTransport : Text → Bool) (sdp : Text) :
    Returns (setRemoteSdp dtlsTransport sdp) ↔ Readable dtlsTransport sdp := by
  unfold setRemoteSdp
  split
  · rename_i hempty
    have hlines : readLines sdp = [] := by
      have hsdp : sdpLines sdp = [] := by
        unfold sdpLines
        rw [hempty]
        split <;> rfl
      rw [readLines, hsdp]
      rfl
    refine iff_of_true (Or.inr rfl) ⟨hlines ▸ not_firstFault_nil, fun _ ty hsection => ?_⟩
    obtain ⟨x, hx, -⟩ := hsection
    rw [hlines] at hx
    cases hx
  · have hloop := parseLines_outcome (sdpLines sdp)
    rw [← readLines] at hloop
    generalize (sdpLines sdp).foldlM parseLine ({} : ParseState) = r at hloop
    cases hloop with
    | fault hfault => exact iff_of_false (by simp [Returns, bind, Except.bind]) fun h => h.1 hfault
    | refusal hfault hrefused =>
      obtain ⟨x, hx, hrefused⟩ := hrefused
      exact iff_of_true (Or.inr rfl) ⟨hfault, fun hnone => absurd hrefused (hnone x hx)⟩
    | @ok s hfault hnone hs =>
      have hcontents := hs.setRemoteContents dtlsTransport
      simp only [bind, Except.bind]
      generalize (s.description.contents.forM fun content =>
        setRemoteContent dtlsTransport s.description content.type.mid) = r at hcontents
      cases hcontents with
      | fault hlacks =>
        obtain ⟨ty, hty, htransport, hrides, hfp⟩ := hlacks
        refine iff_of_false (by simp [Returns]) fun h => hfp ?_
        exact h.2 (fun x hx hrefused => hnone ⟨x, hx, hrefused⟩) ty ((hs.contents ty).mp hty)
          htransport hrides
      | refusal _ hfalse => exact hfalse.elim
      | ok hall _ _ =>
        refine iff_of_true (Or.inl ⟨_, rfl⟩) ⟨hfault, fun _ ty hsection htransport hrides => ?_⟩
        by_contra hfp
        exact hall ⟨ty, (hs.contents ty).mpr hsection, htransport, hrides, hfp⟩

/-- The fingerprint stands before the section, as a line about the whole session. -/
def sessionFingerprint : Text :=
  "v=0\na=fingerprint:sha-256 0A:1B\nm=audio 9 UDP/TLS/RTP/SAVPF 111\na=ice-pwd:pw\n".toList

/-- The fingerprint names no digest algorithm. -/
def bareFingerprint : Text := "m=audio 9 UDP/TLS/RTP/SAVPF 111\na=fingerprint 0A:1B\n".toList

theorem fingerprint_not_returns :
    setRemoteSdp (· = MediaType.audio.mid) sessionFingerprint = .error .nullFingerprint ∧
      ¬ Returns (setRemoteSdp (· = MediaType.audio.mid) sessionFingerprint) ∧
      setRemoteSdp (· = MediaType.audio.mid) bareFingerprint = .error .outOfRange ∧
      ¬ Returns (setRemoteSdp (· = MediaType.audio.mid) bareFingerprint) := by
  have hsession :
      setRemoteSdp (· = MediaType.audio.mid) sessionFingerprint = .error .nullFingerprint := by
    have htext : sessionFingerprint = _ := String.toList_ofList
    rw [htext]
    decide +kernel
  have hbare : setRemoteSdp (· = MediaType.audio.mid) bareFingerprint = .error .outOfRange := by
    have htext : bareFingerprint = _ := String.toList_ofList
    rw [htext]
    decide +kernel
  refine ⟨hsession, ?_, hbare, ?_⟩
  · rw [hsession, Returns]
    exact fun h => h.elim nofun nofun
  · rw [hbare, Returns]
    exact fun h => h.elim nofun nofun

end XrtcServer.Sdp
