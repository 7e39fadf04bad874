import XrtcServer.Core.Upsert
import XrtcServer.Sdp.Description

/-!
# The parser of answers

`PeerConnection::set_remote_sdp` reads a text line by line, with the media type of the last m-line as
its only state besides what it collects, and makes the streams from what it has collected at the end.
-/

namespace XrtcServer.Sdp
open XrtcServer.Base XrtcServer.Core

/-- Why a text is not accepted: the parser returns -1, `substr` throws, or a missing fingerprint is
dereferenced. -/
inductive SdpError
  | rejected
  | outOfRange
  | nullFingerprint
  deriving DecidableEq, Repr

/-- `s.substr(pos)` -/
def substr (s : Text) (pos : Nat) : Except SdpError Text :=
  if pos ≤ s.length then .ok (s.drop pos) else .error .outOfRange

/-- The second field of a line, or nothing. -/
def getAttribute (line : Text) : Text := (tokenize ':' line).getD 1 []

/-- The digests that `IsFips180DigestAlgorithm` knows. -/
def fips180Algorithms : List Text :=
  ["sha-1".toList, "sha-224".toList, "sha-256".toList, "sha-384".toList, "sha-512".toList]

/-- `CreateUniqueFromRfc4572`; the digest is decoded into a buffer of 64 octets. -/
def createFingerprint (algorithm fingerprint : Text) : Option SSLFingerprint :=
  if algorithm ∉ fips180Algorithms ∨ fingerprint = [] ∨ 64 < (fingerprint.length + 1) / 3 then none
  else
    match hexDecode ':' fingerprint with
    | none => none
    | some [] => none
    | some digest => some ⟨algorithm, digest⟩

def parseTransportInfo (td : TransportDescription) (line : Text) :
    Except SdpError TransportDescription :=
  if contains line "a=ice-ufrag".toList then .ok { td with iceUfrag := getAttribute line }
  else if contains line "a=ice-pwd".toList then .ok { td with icePwd := getAttribute line }
  else if contains line "a=fingerprint".toList then
    match tokenize ' ' line with
    | [item, content] => do
      let alg := (← substr item 14).map Char.toLower
      match createFingerprint alg content with
      | none => throw .rejected
      | some fp => return { td with identityFingerprint := some fp }
    | _ => .error .rejected
  else .ok td

structure SsrcInfo where
  ssrcId : UInt32
  cname : Text := []
  streamId : Text := []
  trackId : Text := []
  deriving DecidableEq, Repr

/-- The ssrc, the attribute and its value on a line with `a=ssrc:`. -/
def readSsrcLine (line : Text) : Except SdpError (Option (UInt32 × Text × Text)) :=
  if contains line "a=ssrc:".toList then do
    match tokenizeFirst ' ' (← substr line 2) with
    | none => throw .rejected
    | some (field1, field2) =>
      match fromString (← substr field1 5) with
      | none => throw .rejected
      | some ssrcId =>
        match tokenizeFirst ':' field2 with
        | none => throw .rejected
        | some (attr, value) => return some (ssrcId, attr, value)
  else .ok none

/-- What an attribute changes in the entry of its ssrc. -/
def setSsrcAttribute (attr value : Text) (info : SsrcInfo) : SsrcInfo :=
  if attr = "cname".toList then { info with cname := value }
  else if attr = "msid".toList then
    match split ' ' value with
    | [streamId] => { info with streamId }
    | [streamId, trackId] => { info with streamId, trackId }
    | _ => info
  else info

def parseSsrcInfo (ssrcInfo : List SsrcInfo) (line : Text) : Except SdpError (List SsrcInfo) := do
  match ← readSsrcLine line with
  | none => return ssrcInfo
  | some (ssrcId, attr, value) =>
    if attr = "msid".toList ∧ 2 < (split ' ' value).length then throw .rejected
    else return upsert SsrcInfo.ssrcId ssrcId { ssrcId } (setSsrcAttribute attr value) ssrcInfo

/-- The group on a line with `a=ssrc-group:`. -/
def readSsrcGroupLine (line : Text) : Except SdpError (Option SsrcGroup) :=
  if contains line "a=ssrc-group:".toList then do
    match split ' ' (← substr line 2) with
    | field :: id :: ids =>
      let semantics := getAttribute field
      if semantics = [] then throw .rejected
      else
        match (id :: ids).mapM fromString with
        | none => throw .rejected
        | some ssrcs => return some ⟨semantics, ssrcs⟩
    | _ => throw .rejected
  else .ok none

def parseSsrcGroupInfo (ssrcGroups : List SsrcGroup) (line : Text) :
    Except SdpError (List SsrcGroup) := do
  match ← readSsrcGroupLine line with
  | none => return ssrcGroups
  | some group => return ssrcGroups ++ [group]

/-- One entry of `create_track_from_ssrc_info`. -/
def addTrack (tracks : List StreamParams) (info : SsrcInfo) : List StreamParams :=
  upsert StreamParams.id info.trackId { id := info.trackId }
    (fun track => { track with
      cname := info.cname, streamId := info.streamId, ssrcs := track.ssrcs ++ [info.ssrcId] })
    tracks

def createTrackFromSsrcInfo (ssrcInfos : List SsrcInfo) : List StreamParams :=
  ssrcInfos.foldl addTrack []

/-- The media type after a line, which an m-line changes. -/
def nextMediaType (mediaType line : Text) : Except SdpError Text :=
  if contains line "m=group:BUNDLE".toList then .ok mediaType
  else if contains line "m=".toList then
    match split ' ' line with
    | item :: _ :: _ :: _ => substr item 2
    | _ => .error .rejected
  else .ok mediaType

/-- What the loop of `set_remote_sdp` collects. -/
structure ParseState where
  mediaType : Text := []
  contents : List MediaType := []
  contentGroups : List ContentGroup := []
  audioTd : TransportDescription := {}
  videoTd : TransportDescription := {}
  audioSsrcInfo : List SsrcInfo := []
  videoSsrcInfo : List SsrcInfo := []
  videoSsrcGroups : List SsrcGroup := []
  deriving DecidableEq, Repr

/-- The groups and the contents that a line adds. -/
def parseMediaLine (s : ParseState) (line : Text) : Except SdpError ParseState := do
  let mediaType ← nextMediaType s.mediaType line
  if contains line "m=group:BUNDLE".toList then
    match split ' ' line with
    | _ :: name :: names =>
      let answerBundle :=
        (name :: names).foldl ContentGroup.addContentName ⟨SessionDescription.bundle, []⟩
      return { s with contentGroups := s.contentGroups ++ [answerBundle] }
    | _ => return s
  else if contains line "m=".toList then
    if mediaType = MediaType.audio.mid then
      return { s with
        mediaType
        contents := s.contents ++ [.audio]
        audioTd := { s.audioTd with mid := MediaType.audio.mid } }
    else if mediaType = MediaType.video.mid then
      return { s with
        mediaType
        contents := s.contents ++ [.video]
        videoTd := { s.videoTd with mid := MediaType.video.mid } }
    else return { s with mediaType }
  else return s

/-- One iteration of the loop over the lines. -/
def parseLine (s : ParseState) (line : Text) : Except SdpError ParseState := do
  let s ← parseMediaLine s line
  if s.mediaType = MediaType.audio.mid then
    let audioTd ← parseTransportInfo s.audioTd line
    let audioSsrcInfo ← parseSsrcInfo s.audioSsrcInfo line
    return { s with audioTd, audioSsrcInfo }
  else if s.mediaType = MediaType.video.mid then
    let videoTd ← parseTransportInfo s.videoTd line
    let videoSsrcGroups ← parseSsrcGroupInfo s.videoSsrcGroups line
    let videoSsrcInfo ← parseSsrcInfo s.videoSsrcInfo line
    return { s with videoTd, videoSsrcGroups, videoSsrcInfo }
  else return s

/-- The lines of a text. Where some line ends in CR LF, each loses its last character. -/
def sdpLines (sdp : Text) : List Text :=
  let fields := tokenize '\n' sdp
  if contains sdp "\r\n".toList then fields.map List.dropLast else fields

/-- A group goes to every track that has its first ssrc. -/
def attachGroup (tracks : List StreamParams) (group : SsrcGroup) : List StreamParams :=
  match group.ssrcs with
  | [] => tracks
  | ssrc :: _ =>
    tracks.map fun track =>
      if track.hasSsrc ssrc then { track with ssrcGroups := track.ssrcGroups ++ [group] }
      else track

/-- One iteration of the loop over the groups, on the tracks and the streams of the content. -/
def addGroup (acc : List StreamParams × List StreamParams) (group : SsrcGroup) :
    List StreamParams × List StreamParams :=
  if group.ssrcs = [] then acc
  else (attachGroup acc.1 group, acc.2 ++ attachGroup acc.1 group)

/-- The streams of the video content: the tracks are added inside the loop over the groups. -/
def videoStreams (ssrcInfos : List SsrcInfo) (groups : List SsrcGroup) : List StreamParams :=
  (groups.foldl addGroup (createTrackFromSsrcInfo ssrcInfos, [])).2

/-- The description that the loop leads to. -/
def ParseState.description (s : ParseState) : SessionDescription where
  contents := s.contents.map fun
    | .audio =>
      { type := .audio, direction := .inactive, streams := createTrackFromSsrcInfo s.audioSsrcInfo }
    | .video =>
      { type := .video, direction := .inactive
        streams := videoStreams s.videoSsrcInfo s.videoSsrcGroups }
  contentGroups := s.contentGroups
  transportInfos := [s.audioTd, s.videoTd]

/-- `TransportController::set_remote_description` for the content `mid`, where `dtlsTransport` tells
which contents have a transport. -/
def setRemoteContent (dtlsTransport : Text → Bool) (d : SessionDescription) (mid : Text) :
    Except SdpError Unit :=
  if d.isBundle mid ∧ some mid ≠ d.getFirstBundleMid then .ok ()
  else
    match d.getTransportInfo mid with
    | none => .ok ()
    | some td =>
      if dtlsTransport mid ∧ td.identityFingerprint = none then .error .nullFingerprint else .ok ()

/-- `PeerConnection::set_remote_sdp`, with the description it stores where it returns 0. -/
def setRemoteSdp (dtlsTransport : Text → Bool) (sdp : Text) : Except SdpError SessionDescription := do
  if tokenize '\n' sdp = [] then throw .rejected
  else
    let s ← (sdpLines sdp).foldlM parseLine {}
    let d := s.description
    d.contents.forM fun content => setRemoteContent dtlsTransport d content.type.mid
    return d

/-- The text is accepted after a run over its lines. -/
lemma setRemoteSdp_spec {dtlsTransport : Text → Bool} {sdp : Text} {d : SessionDescription}
    (h : setRemoteSdp dtlsTransport sdp = .ok d) :
    ∃ s, (sdpLines sdp).foldlM parseLine {} = .ok s ∧ d = s.description := by
  unfold setRemoteSdp at h
  split at h
  · cases h
  · obtain ⟨s, hs, h⟩ := bind_eq_ok.mp h
    obtain ⟨-, -, h⟩ := bind_eq_ok.mp h
    cases h
    exact ⟨s, hs, rfl⟩

end XrtcServer.Sdp
