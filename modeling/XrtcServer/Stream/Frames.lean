import XrtcServer.Stream.Removal

/-!
# What the calls of a user touch

`stop_push`, `stop_pull` and `set_answer` look a stream up by its name and compare its uid. This file
says that they leave alone every stream but the one that bears that name and belongs to that user.
-/

namespace XrtcServer.Stream
open XrtcServer.Core RtcStreamManager

variable {m m' : RtcStreamManager} {ty : RtcStreamType} {uid : UInt64} {n answer : String}
  {p : Ptr} {s : RtcStream}

/-- The stream at `p` is as it was, and so are the entries that refer to it. -/
structure Untouched (m : RtcStreamManager) (p : Ptr) (m' : RtcStreamManager) : Prop where
  streams : m'.streams p = m.streams p
  entries : ∀ ty n, m'.mapOf ty n = some p ↔ m.mapOf ty n = some p

/-- The stream at `p` is what a call for a stream of that type, by that user and under that name,
is about. -/
def Own (m : RtcStreamManager) (ty : RtcStreamType) (uid : UInt64) (n : String) (p : Ptr) : Prop :=
  m.findStream ty n = some p ∧ m.uidAt p = some uid

/-- Nothing but the user's own stream is touched, and nothing at all where no type is given. -/
def Confined (m : RtcStreamManager) (ty : Option RtcStreamType) (uid : UInt64) (n : String)
    (m' : RtcStreamManager) : Prop :=
  ∀ p, (∀ t ∈ ty, ¬ Own m t uid n p) → Untouched m p m'

/-- The type that the text `stream_type` stands for. -/
def typeNamed (streamType : String) : Option RtcStreamType :=
  if streamType = "push" then some .kPush
  else if streamType = "pull" then some .kPull
  else none

lemma Untouched.refl : Untouched m p m := ⟨rfl, fun _ _ => Iff.rfl⟩

/-- An entry has the type and the name it is stored under. -/
lemma Own.stream (hm : Consistent m) (h : Own m ty uid n p) :
    ∃ s, m.streams p = some s ∧ s.streamType = ty ∧ s.streamName = n ∧ s.uid = uid := by
  obtain ⟨hp, huid⟩ := h
  obtain ⟨s, hs, hty, hname⟩ := hm.entry ty n p hp
  refine ⟨s, hs, hty, hname, ?_⟩
  rw [uidAt, hs] at huid
  exact Option.some.inj huid

lemma RemovesExactly.untouched {q : Ptr} (h : RemovesExactly m p m') (hq : q ≠ p) :
    Untouched m q m' := by
  refine ⟨by rw [h.streams, if_neg hq], fun ty n => ?_⟩
  rw [h.entries]
  split
  · rename_i hp
    rw [hp]
    exact ⟨nofun, fun h => absurd (Option.some.inj h).symm hq⟩
  · exact Iff.rfl

lemma confined_removeStream (hm : Consistent m) :
    Confined m (some ty) uid n (m.removeStream ty uid n) := by
  intro q hq
  rcases removeStream_cases m ty uid n with ⟨h, -⟩ | ⟨p, hp, huid, h⟩
  · rw [h]
    exact .refl
  · rw [h]
    refine (RemovesExactly.of_forget hm hp).untouched ?_
    rintro rfl
    exact hq ty rfl ⟨hp, huid⟩

lemma answerStream_eq_of_own (h : Own m ty uid n p) :
    m.answerStream ty uid n answer = (0, m.setRemoteSdp p answer) := by
  rw [answerStream, h.1]
  exact if_pos h.2

lemma answerStream_eq_of_not_own (h : ∀ p, ¬ Own m ty uid n p) :
    m.answerStream ty uid n answer = (-1, m) := by
  unfold answerStream
  split
  · rfl
  · rename_i p hp
    exact if_neg fun huid => h p ⟨hp, huid⟩

lemma untouched_setRemoteSdp {q : Ptr} (hq : q ≠ p) : Untouched m q (m.setRemoteSdp p answer) := by
  unfold setRemoteSdp
  split
  · exact .refl
  · exact ⟨by rw [streams_store, if_neg hq], fun ty n => by rw [mapOf_store]⟩

lemma confined_answerStream :
    Confined m (some ty) uid n (m.answerStream ty uid n answer).2 := by
  intro q hq
  by_cases hown : ∃ p, Own m ty uid n p
  · obtain ⟨p, hp⟩ := hown
    rw [answerStream_eq_of_own hp]
    refine untouched_setRemoteSdp ?_
    rintro rfl
    exact hq ty rfl hp
  · rw [answerStream_eq_of_not_own (not_exists.mp hown)]
    exact .refl

lemma setAnswer_eq (m : RtcStreamManager) (uid : UInt64) (n answer streamType : String) :
    m.setAnswer uid n answer streamType =
      match typeNamed streamType with
      | some ty => m.answerStream ty uid n answer
      | none => (0, m) := by
  unfold setAnswer typeNamed
  split
  · rfl
  · split <;> rfl

lemma confined_setAnswer (m : RtcStreamManager) (uid : UInt64) (n answer streamType : String) :
    Confined m (typeNamed streamType) uid n (m.setAnswer uid n answer streamType).2 := by
  rw [setAnswer_eq]
  cases typeNamed streamType with
  | none => exact fun _ _ => .refl
  | some ty => exact confined_answerStream

/-- What is confined leaves alone the streams of other names and of other users. -/
lemma Confined.untouched {t : Option RtcStreamType} (h : Confined m t uid n m')
    (hm : Consistent m) (hs : m.streams p = some s) (hother : s.streamName ≠ n ∨ s.uid ≠ uid) :
    Untouched m p m' := by
  refine h p fun ty _ hown => ?_
  obtain ⟨u, hu, -, hname, huid⟩ := hown.stream hm
  cases hs.symm.trans hu
  exact hother.elim (· hname) (· huid)

/-- A call touches at most the stream of its type that bears the name and belongs to the user, and
an answer to a stream that is not there is refused. -/
theorem calls_confined (hm : Reachable Step initial m) (uid : UInt64)
    (n answer streamType : String) :
    Confined m (some .kPush) uid n (m.stopPush uid n).2 ∧
      Confined m (some .kPull) uid n (m.stopPull uid n).2 ∧
      Confined m (typeNamed streamType) uid n (m.setAnswer uid n answer streamType).2 ∧
      (∀ ty ∈ typeNamed streamType,
        (∀ p s, m.streams p = some s → ¬ (s.streamType = ty ∧ s.streamName = n ∧ s.uid = uid)) →
          (m.setAnswer uid n answer streamType).1 = -1) ∧
      ∀ p s, m.streams p = some s → s.streamName ≠ n ∨ s.uid ≠ uid →
        Untouched m p (m.stopPush uid n).2 ∧ Untouched m p (m.stopPull uid n).2 ∧
          Untouched m p (m.setAnswer uid n answer streamType).2 := by
  have hcons := reachable_consistent hm
  have hpush : Confined m (some .kPush) uid n (m.stopPush uid n).2 := confined_removeStream hcons
  have hpull : Confined m (some .kPull) uid n (m.stopPull uid n).2 := confined_removeStream hcons
  have hanswer := confined_setAnswer m uid n answer streamType
  refine ⟨hpush, hpull, hanswer, fun ty hty hnone => ?_, fun p s hs hother => ?_⟩
  · rw [setAnswer_eq, hty]
    dsimp only
    rw [answerStream_eq_of_not_own]
    intro p hown
    obtain ⟨s, hs, hspec⟩ := hown.stream hcons
    exact hnone p s hs hspec
  · exact ⟨hpush.untouched hcons hs hother, hpull.untouched hcons hs hother,
      hanswer.untouched hcons hs hother⟩

/-- Another user can stop neither side of the loopback. -/
theorem loopback_calls_confined :
    Untouched loopback 1 (loopback.stopPush 2 "live").2 ∧
      Untouched loopback 2 (loopback.stopPull 2 "live").2 ∧
      (loopback.setAnswer 2 "live" "v=0" "push").1 = -1 := by
  have h := calls_confined loopback_reachable 2 "live" "v=0" "push"
  refine ⟨?_, ?_, rfl⟩
  · exact (h.2.2.2.2 1 ⟨.kPush, 1, "live", true, true, 0, .kNew, none, true⟩ rfl
      (.inr (by decide))).1
  · exact (h.2.2.2.2 2 ⟨.kPull, 1, "live", true, true, 0, .kNew, none, true⟩ rfl
      (.inr (by decide))).2.1

end XrtcServer.Stream
