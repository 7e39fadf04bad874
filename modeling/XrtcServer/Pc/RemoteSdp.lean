import XrtcServer.Pc.Handshake
import XrtcServer.Pc.TransportController
import XrtcServer.Sdp.Parser

/-!
# The answer of a peer

`set_remote_sdp` puts a new description in the place of the old one before it reads the first line,
completes it when all lines are read, and then hands its transport infos to the transports.
-/

namespace XrtcServer.Pc
open XrtcServer.Base XrtcServer.Core XrtcServer.Ice XrtcServer.Sdp

/-- A `SessionDescription` on the heap. -/
structure DescriptionObject where
  address : Nat
  description : SessionDescription
  deriving DecidableEq, Repr

/-- The part of a `PeerConnection` that an answer changes. The transports of the controller have the
names of `transportNames`, in the same order. -/
structure AnsweredPeer where
  remoteDesc : Option DescriptionObject := none
  transportNames : List Text
  controller : TransportController

/-- What is given while the parameters of one content are set: the time, and the answers of OpenSSL
to the channel's signals and to the new fingerprint. -/
structure RemoteCalls where
  now : Int := 0
  ice : Calls := {}
  dtls : Calls := {}

/-- A `std::string` as octets. -/
def octets (s : Text) : Bytes := s.map fun c => c.toNat.toUInt8

/-- What the loop over the lines has put into `_remote_desc`; the streams of a content come
later. -/
def partialDescription (s : ParseState) : SessionDescription where
  contents := s.contents.map fun type => { type, direction := .inactive }
  contentGroups := s.contentGroups

/-- The loop over the lines, with what it has collected where it ends. -/
def parseLines (s : ParseState) : List Text → Except SdpError Unit × ParseState
  | [] => (.ok (), s)
  | line :: lines =>
    match parseMediaLine s line with
    | .error e => (.error e, s)
    | .ok entered =>
      match parseLine s line with
      | .error e => (.error e, entered)
      | .ok s => parseLines s lines

namespace TransportController

variable (opening : Opening)

/-- `set_remote_ice_param` of the agent, for the `i`th channel -/
def setRemoteIceParam (i : Nat) (params : IceParameters) (calls : RemoteCalls)
    (c : TransportController) : TransportController :=
  match c.transports[i]? with
  | none => c
  | some t => c.channelEvent opening i (t.channel.setRemoteIceParams params calls.now) calls.ice

/-- The iteration of `set_remote_description` for the content `mid`. -/
def setRemoteContent (calls : RemoteCalls) (transportNames : List Text) (d : SessionDescription)
    (mid : Text) (c : TransportController) : Except SdpError Unit × TransportController :=
  if d.isBundle mid ∧ some mid ≠ d.getFirstBundleMid then (.ok (), c)
  else
    match d.getTransportInfo mid, transportNames.idxOf? mid with
    | some td, some i =>
      let c := c.setRemoteIceParam opening i ⟨octets td.iceUfrag, octets td.icePwd⟩ calls
      match td.identityFingerprint with
      | none => (.error .nullFingerprint, c)
      | some fp =>
        (.ok (), c.dtlsEvent opening i (.remoteFingerprint fp.algorithm fp.digest calls.dtls))
    | _, _ => (.ok (), c)

/-- The loop of `set_remote_description` over the names of the contents. -/
def setRemoteContents (calls : Text → RemoteCalls) (transportNames : List Text)
    (d : SessionDescription) :
    List Text → TransportController → Except SdpError Unit × TransportController
  | [], c => (.ok (), c)
  | mid :: mids, c =>
    match c.setRemoteContent opening (calls mid) transportNames d mid with
    | (.ok (), c) => setRemoteContents calls transportNames d mids c
    | r => r

def setRemoteDescription (calls : Text → RemoteCalls) (transportNames : List Text)
    (d : SessionDescription) (c : TransportController) :
    Except SdpError Unit × TransportController :=
  c.setRemoteContents opening calls transportNames d (d.contents.map (·.type.mid))

end TransportController

namespace AnsweredPeer

variable {opening : Opening} {calls : Text → RemoteCalls} {address : Nat} {sdp : Text}
  {pc pc' : AnsweredPeer} {r : Except SdpError Unit}

/-- `set_remote_sdp`, the new description being placed at `address`: 0 where the first component is
`ok`, and -1 where it is `rejected`. `none` where it cannot happen, since the old description lives
until the new one is made. -/
def setRemoteSdp (opening : Opening) (calls : Text → RemoteCalls) (address : Nat) (sdp : Text)
    (pc : AnsweredPeer) : Option (Except SdpError Unit × AnsweredPeer) :=
  if tokenize '\n' sdp = [] then some (.error .rejected, pc)
  else if pc.remoteDesc.map DescriptionObject.address = some address then none
  else
    match parseLines {} (sdpLines sdp) with
    | (.error e, s) =>
      some (.error e, { pc with remoteDesc := some ⟨address, partialDescription s⟩ })
    | (.ok (), s) =>
      let (r, controller) :=
        pc.controller.setRemoteDescription opening calls pc.transportNames s.description
      some (r, { pc with remoteDesc := some ⟨address, s.description⟩, controller })

/-- `PushStream::_get_source`, where `none` stands for false -/
def getSource (mid : Text) (pc : AnsweredPeer) : Option (List StreamParams) :=
  (pc.remoteDesc.bind fun object => object.description.getContent mid).map
    MediaContentDescription.streams

/-! ## The parser behind it -/

lemma parseLines_spec (s : ParseState) (lines : List Text) :
    lines.foldlM parseLine s = (parseLines s lines).1.map fun _ => (parseLines s lines).2 := by
  induction lines generalizing s with
  | nil => rfl
  | cons line lines ih =>
    rw [List.foldlM_cons, parseLines]
    cases hmedia : parseMediaLine s line with
    | error e =>
      rw [parseLine, hmedia]
      rfl
    | ok entered =>
      cases hline : parseLine s line with
      | error e => rfl
      | ok s' => exact ih s'

lemma setRemoteContent_fst (opening : Opening) (calls : RemoteCalls) (names : List Text)
    (d : SessionDescription) (mid : Text) (c : TransportController) :
    (c.setRemoteContent opening calls names d mid).1 =
      Sdp.setRemoteContent (fun name => decide (name ∈ names)) d mid := by
  unfold TransportController.setRemoteContent Sdp.setRemoteContent
  split
  · rfl
  · cases htd : d.getTransportInfo mid with
    | none => rfl
    | some td =>
      cases hname : names.idxOf? mid with
      | none =>
        have hmid : mid ∉ names := List.idxOf?_eq_none_iff.mp hname
        simp [hmid]
      | some i =>
        have hmid : mid ∈ names := by
          by_contra hmid
          cases hname.symm.trans (List.idxOf?_eq_none_iff.mpr hmid)
        dsimp only
        cases hfp : td.identityFingerprint with
        | none => simp [hmid]
        | some fp => simp

lemma setRemoteContents_fst (opening : Opening) (calls : Text → RemoteCalls) (names : List Text)
    (d : SessionDescription) (mids : List Text) (c : TransportController) :
    (c.setRemoteContents opening calls names d mids).1 =
      forM mids (Sdp.setRemoteContent (fun name => decide (name ∈ names)) d) := by
  induction mids generalizing c with
  | nil => rfl
  | cons mid mids ih =>
    have hfst := setRemoteContent_fst opening (calls mid) names d mid c
    rw [List.forM_cons, ← hfst, TransportController.setRemoteContents]
    generalize c.setRemoteContent opening (calls mid) names d mid = x
    obtain ⟨r, c'⟩ := x
    cases r with
    | ok u => exact ih c'
    | error e => rfl

lemma setRemoteDescription_fst (opening : Opening) (calls : Text → RemoteCalls)
    (names : List Text) (d : SessionDescription) (c : TransportController) :
    (c.setRemoteDescription opening calls names d).1 = forM d.contents fun content =>
      Sdp.setRemoteContent (fun name => decide (name ∈ names)) d content.type.mid := by
  rw [TransportController.setRemoteDescription, setRemoteContents_fst, List.forM_map]

/-- The call ends as the parser says, and where it returns 0 the description is the one that the
parser makes. -/
theorem setRemoteSdp_refines (h : pc.setRemoteSdp opening calls address sdp = some (r, pc')) :
    r = (Sdp.setRemoteSdp (fun name => decide (name ∈ pc.transportNames)) sdp).map (fun _ => ()) ∧
      ∀ d, Sdp.setRemoteSdp (fun name => decide (name ∈ pc.transportNames)) sdp = .ok d →
        pc'.remoteDesc = some ⟨address, d⟩ := by
  unfold AnsweredPeer.setRemoteSdp at h
  unfold Sdp.setRemoteSdp
  split at h
  · rename_i hempty
    cases h
    rw [if_pos hempty]
    exact ⟨rfl, nofun⟩
  · rename_i hlines
    rw [if_neg hlines, parseLines_spec]
    split at h
    · cases h
    · generalize parseLines {} (sdpLines sdp) = x at h ⊢
      obtain ⟨e | u, s⟩ := x
      · cases h
        exact ⟨rfl, nofun⟩
      · have hfst := setRemoteDescription_fst opening calls pc.transportNames s.description
          pc.controller
        dsimp only at h
        generalize pc.controller.setRemoteDescription opening calls pc.transportNames
          s.description = x at h hfst
        cases h
        simp only [Except.map, bind, Except.bind, List.forM_eq_forM, ← hfst]
        cases x.1 with
        | error e => exact ⟨rfl, nofun⟩
        | ok u =>
          refine ⟨rfl, ?_⟩
          rintro d ⟨⟩
          rfl

/-! ## What a refused answer changes -/

lemma setRemoteContent_ne_rejected (dtlsTransport : Text → Bool) (d : SessionDescription)
    (mid : Text) : Sdp.setRemoteContent dtlsTransport d mid ≠ .error .rejected := by
  unfold Sdp.setRemoteContent
  split
  · nofun
  · split
    · nofun
    · split <;> nofun

lemma setRemoteContents_ne_rejected (opening : Opening) (calls : Text → RemoteCalls)
    (names : List Text) (d : SessionDescription) (mids : List Text) (c : TransportController) :
    (c.setRemoteContents opening calls names d mids).1 ≠ .error .rejected := by
  rw [setRemoteContents_fst]
  induction mids with
  | nil => nofun
  | cons mid mids ih =>
    have hmid := setRemoteContent_ne_rejected (fun name => decide (name ∈ names)) d mid
    rw [List.forM_cons]
    cases hr : Sdp.setRemoteContent (fun name => decide (name ∈ names)) d mid with
    | error e =>
      rw [hr] at hmid
      exact fun h => hmid h
    | ok u => exact ih

/-- A refused answer never reaches the transports, and it leaves the description alone only where
the text has no line at all. -/
theorem unchanged_of_rejected_iff
    (h : pc.setRemoteSdp opening calls address sdp = some (.error .rejected, pc')) :
    pc'.controller = pc.controller ∧ (pc' = pc ↔ ∀ c ∈ sdp, c = '\n') := by
  rw [← tokenize_eq_nil_iff]
  unfold AnsweredPeer.setRemoteSdp at h
  split at h
  · rename_i hempty
    cases h
    exact ⟨rfl, iff_of_true rfl hempty⟩
  · rename_i hlines
    split at h
    · cases h
    · rename_i haddress
      split at h
      · cases h
        refine ⟨rfl, iff_of_false (fun heq => haddress ?_) hlines⟩
        rw [← heq]
        rfl
      · dsimp only at h
        have hr := congrArg Prod.fst (Option.some.inj h)
        exact (setRemoteContents_ne_rejected _ _ _ _ _ _ hr).elim

end AnsweredPeer

/-- The peer connection of a stream whose first answer was accepted. -/
def answered : AnsweredPeer where
  remoteDesc := some ⟨1,
    { contents := [{ type := .audio, direction := .inactive, streams := [{ id := "mic".toList }] }] }⟩
  transportNames := []
  controller := { transports := [] }

/-- An m-line without a port. -/
theorem answered_rejected :
    ∃ pc', answered.setRemoteSdp unwired.toOpening (fun _ => {}) 2 "m=audio\n".toList =
        some (.error .rejected, pc') ∧
      pc'.controller = answered.controller ∧
      (pc' = answered ↔ ∀ c ∈ "m=audio\n".toList, c = '\n') :=
  ⟨_, rfl, @AnsweredPeer.unchanged_of_rejected_iff unwired.toOpening (fun _ => {}) 2 _ answered _ rfl⟩

/-- The second answer is refused, and the stream of the first is gone. -/
theorem rejected_loses_source :
    ∃ pc', answered.setRemoteSdp unwired.toOpening (fun _ => {}) 2 "m=audio\n".toList =
        some (.error .rejected, pc') ∧
      answered.getSource "audio".toList = some [{ id := "mic".toList }] ∧
      pc'.getSource "audio".toList = none ∧ pc'.remoteDesc ≠ answered.remoteDesc :=
  ⟨_, rfl, rfl, rfl, by decide⟩

end XrtcServer.Pc
