import XrtcServer.Base.StringEncode

/-!
# Session descriptions

`SessionDescription` and its text. A description is printed line by line; each line of a list below
stands for one `ss << … << "\\r\\n"` of the source.
-/

namespace XrtcServer.Sdp
open XrtcServer.Base

structure SsrcGroup where
  semantics : Text
  ssrcs : List UInt32
  deriving DecidableEq, Repr

structure StreamParams where
  id : Text
  ssrcs : List UInt32 := []
  ssrcGroups : List SsrcGroup := []
  cname : Text := []
  streamId : Text := []
  deriving DecidableEq, Repr

def StreamParams.hasSsrc (s : StreamParams) (ssrc : UInt32) : Bool := s.ssrcs.contains ssrc

structure FeedbackParam where
  id : Text
  param : Text := []
  deriving DecidableEq, Repr

/-- A codec; `channels` is there for audio codecs. `codecParam` is in the order of its keys. -/
structure CodecInfo where
  id : Nat
  name : Text
  clockrate : Nat
  channels : Option Nat := none
  feedbackParam : List FeedbackParam := []
  codecParam : List (Text × Text) := []
  deriving DecidableEq, Repr

inductive MediaType
  | audio
  | video
  deriving DecidableEq, Repr

def MediaType.mid : MediaType → Text
  | .audio => "audio".toList
  | .video => "video".toList

lemma MediaType.mid_inj {ty ty' : MediaType} : ty.mid = ty'.mid ↔ ty = ty' := by
  refine ⟨fun h => ?_, congrArg mid⟩
  cases ty <;> cases ty' <;> revert h <;> decide

/-- The codecs that the constructors of the content descriptions put in. -/
def MediaType.codecs : MediaType → List CodecInfo
  | .audio =>
    [{ id := 111, name := "opus".toList, clockrate := 48000, channels := some 2,
       feedbackParam := [{ id := "transport-cc".toList }],
       codecParam := [("minptime".toList, "10".toList), ("useinbandfec".toList, "1".toList)] }]
  | .video =>
    [{ id := 107, name := "h264".toList, clockrate := 90000,
       feedbackParam :=
        [{ id := "goog-remb".toList }, { id := "transport-cc".toList },
          { id := "ccm".toList, param := "fir".toList }, { id := "nack".toList },
          { id := "nack".toList, param := "pli".toList }],
       codecParam :=
        [("level-asymmetry-allowed".toList, "1".toList), ("packetization-mode".toList, "1".toList),
          ("profile-level-id".toList, "42e01f".toList)] },
      { id := 99, name := "rtx".toList, clockrate := 90000,
        codecParam := [("apt".toList, "107".toList)] }]

inductive RtpDirection
  | sendRecv
  | sendOnly
  | recvOnly
  | inactive
  deriving DecidableEq, Repr

/-- A candidate; `host` is what `address.HostAsURIString()` prints. -/
structure Candidate where
  foundation : Text
  component : Nat
  protocol : Text
  priority : UInt32
  host : Text
  port : Nat
  type : Text
  deriving DecidableEq, Repr

/-- An `AudioContentDescription` or a `VideoContentDescription`. The constructors leave `direction`
as it comes. -/
structure MediaContentDescription where
  type : MediaType
  direction : RtpDirection
  rtcpMux : Bool := true
  candidates : List Candidate := []
  streams : List StreamParams := []
  deriving DecidableEq, Repr

structure ContentGroup where
  semantics : Text
  contentNames : List Text := []
  deriving DecidableEq, Repr

def ContentGroup.addContentName (g : ContentGroup) (name : Text) : ContentGroup :=
  if name ∈ g.contentNames then g else { g with contentNames := g.contentNames ++ [name] }

structure SSLFingerprint where
  algorithm : Text
  digest : Bytes
  deriving DecidableEq, Repr

inductive ConnectionRole
  | none
  | active
  | passive
  | actpass
  | holdconn
  deriving DecidableEq, Repr

@[ext] structure TransportDescription where
  mid : Text := []
  iceUfrag : Text := []
  icePwd : Text := []
  identityFingerprint : Option SSLFingerprint := none
  connectionRole : ConnectionRole := .none
  deriving DecidableEq, Repr

@[ext] structure SessionDescription where
  contents : List MediaContentDescription := []
  contentGroups : List ContentGroup := []
  transportInfos : List TransportDescription := []
  deriving DecidableEq, Repr

namespace SessionDescription

def getContent (d : SessionDescription) (mid : Text) : Option MediaContentDescription :=
  d.contents.find? (·.type.mid = mid)

def getGroupByName (d : SessionDescription) (name : Text) : List ContentGroup :=
  d.contentGroups.filter (·.semantics = name)

def getTransportInfo (d : SessionDescription) (mid : Text) : Option TransportDescription :=
  d.transportInfos.find? (·.mid = mid)

def bundle : Text := "BUNDLE".toList

def isBundle (d : SessionDescription) (mid : Text) : Bool :=
  (d.getGroupByName bundle).any fun group => group.contentNames.contains mid

/-- `get_first_bundle_mid`; `none` where the first group has no names and the code reads outside
it. -/
def getFirstBundleMid (d : SessionDescription) : Option Text :=
  match d.getGroupByName bundle with
  | [] => some []
  | group :: _ => group.contentNames.head?

end SessionDescription

section lines

def addRtcpFbLine (codec : CodecInfo) : List Text :=
  codec.feedbackParam.map fun param =>
    "a=rtcp-fd:".toList ++ decimal codec.id ++ " ".toList ++ param.id ++
      if param.param = [] then [] else " ".toList ++ param.param

def addFmtpLine (codec : CodecInfo) : List Text :=
  if codec.codecParam = [] then []
  else
    let data := codec.codecParam.flatMap fun param => ";".toList ++ param.1 ++ "=".toList ++ param.2
    ["a=fmtp:".toList ++ decimal codec.id ++ " ".toList ++ data.drop 1]

def buildRtpMap (content : MediaContentDescription) : List Text :=
  content.type.codecs.flatMap fun codec =>
    ["a=rtpmap:".toList ++ decimal codec.id ++ " ".toList ++ codec.name ++ "/".toList ++
      decimal codec.clockrate ++
        match codec.channels with
        | some channels => "/".toList ++ decimal channels
        | none => []] ++
    addRtcpFbLine codec ++ addFmtpLine codec

def buildRtpDirection (content : MediaContentDescription) : Text :=
  match content.direction with
  | .sendRecv => "a=sendrecv".toList
  | .sendOnly => "a=sendonly".toList
  | .recvOnly => "a=recvonly".toList
  | .inactive => "a=inactive".toList

def connectionRoleToString : ConnectionRole → Text
  | .active => "active".toList
  | .passive => "passive".toList
  | .actpass => "actpass".toList
  | .holdconn => "holdconn".toList
  | .none => "none".toList

def buildCandidate (content : MediaContentDescription) : List Text :=
  content.candidates.map fun c =>
    "a=candidate:".toList ++ c.foundation ++ " ".toList ++ decimal c.component ++ " ".toList ++
      c.protocol ++ " ".toList ++ decimal c.priority.toNat ++ " ".toList ++ c.host ++
      " ".toList ++ decimal c.port ++ " typ ".toList ++ c.type

def addSsrcLine (ssrc : UInt32) (attr value : Text) : Text :=
  "a=ssrc:".toList ++ decimal ssrc.toNat ++ " ".toList ++ attr ++ ":".toList ++ value

def buildSsrc (content : MediaContentDescription) : List Text :=
  content.streams.flatMap fun track =>
    ((track.ssrcGroups.filter (·.ssrcs ≠ [])).map fun ssrcGroup =>
      "a=ssrc-group".toList ++ ssrcGroup.semantics ++
        ssrcGroup.ssrcs.flatMap fun ssrc => " ".toList ++ decimal ssrc.toNat) ++
    let msid := track.streamId ++ " ".toList ++ track.id
    track.ssrcs.flatMap fun ssrc =>
      [addSsrcLine ssrc "cname".toList track.cname, addSsrcLine ssrc "msid".toList msid,
        addSsrcLine ssrc "mslabel".toList track.streamId, addSsrcLine ssrc "lable".toList track.id]

def SSLFingerprint.getRfc4572Fingerprint (fp : SSLFingerprint) : Text := hexEncode ':' fp.digest

/-- The lines of the transport of a content. -/
def buildTransport (td : TransportDescription) : List Text :=
  ["a=ice-ufrag:".toList ++ td.iceUfrag, "a=ice-pwd:".toList ++ td.icePwd] ++
    match td.identityFingerprint with
    | none => []
    | some fp =>
      ["a=fingerprint:".toList ++ fp.algorithm ++ " ".toList ++ fp.getRfc4572Fingerprint,
        "a=setup:".toList ++ connectionRoleToString td.connectionRole]

/-- The lines of a content. -/
def buildContent (d : SessionDescription) (content : MediaContentDescription) : List Text :=
  ["m=".toList ++ content.type.mid ++ " 9 UDP/TLS/RTP/SAVPF".toList ++
      content.type.codecs.flatMap fun codec => " ".toList ++ decimal codec.id,
    "c=IN IP4 0.0.0.0".toList, "a=rtcp:9 IN IP4 0.0.0.0".toList] ++
  buildCandidate content ++
  (match d.getTransportInfo content.type.mid with
    | none => []
    | some td => buildTransport td) ++
  ["a=mid:".toList ++ content.type.mid, buildRtpDirection content] ++
  (if content.rtcpMux then ["a=rtcp-mux".toList] else []) ++
  buildRtpMap content ++ buildSsrc content

/-- The line of the BUNDLE groups. -/
def buildGroup (d : SessionDescription) : List Text :=
  match d.getGroupByName SessionDescription.bundle with
  | [] => []
  | groups =>
    ["a=group:BUNDLE".toList ++ groups.flatMap fun group =>
      group.contentNames.flatMap fun name => " ".toList ++ name]

def SessionDescription.toLines (d : SessionDescription) : List Text :=
  ["v=0".toList, "o=- 0 2 IN IP4 127.0.0.1".toList, "s=-".toList, "t=0 0".toList] ++
    buildGroup d ++ ["a=msid-semantic: WMS".toList] ++ d.contents.flatMap (buildContent d)

end lines

/-- `SessionDescription::to_string` -/
def SessionDescription.toText (d : SessionDescription) : Text :=
  d.toLines.flatMap (· ++ "\r\n".toList)

end XrtcServer.Sdp
