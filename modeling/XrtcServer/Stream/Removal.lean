import XrtcServer.Stream.Registry

/-!
# The removal of a failing stream

A stream that fails or times out calls its manager with itself as the argument, but the manager
removes whatever it finds under the uid and the name of that stream. This file says when the two
are the same object.
-/

namespace XrtcServer.Stream
open XrtcServer.Core RtcStreamManager

variable {m m' : RtcStreamManager} {ty : RtcStreamType} {n : String} {p q : Ptr} {s u : RtcStream}

/-- Exactly the stream at `p` goes: its object, the entries that refer to it and nothing else. -/
structure RemovesExactly (m : RtcStreamManager) (p : Ptr) (m' : RtcStreamManager) : Prop where
  streams : ∀ q, m'.streams q = if q = p then none else m.streams q
  entries : ∀ ty n, m'.mapOf ty n = if m.mapOf ty n = some p then none else m.mapOf ty n

/-- In a consistent manager an object has at most one entry, so removing it is forgetting it. -/
lemma RemovesExactly.of_forget (hm : Consistent m) (hp : m.mapOf ty n = some p) :
    RemovesExactly m p (m.forget ty n p) := by
  refine ⟨fun q => streams_forget m ty n p q, fun t k => ?_⟩
  rw [mapOf_forget]
  by_cases hk : m.mapOf t k = some p
  · obtain ⟨s, hs, rfl, rfl⟩ := hm.entry t k p hk
    obtain ⟨u, hu, rfl, rfl⟩ := hm.entry ty n p hp
    cases hs.symm.trans hu
    simp [hk]
  · rw [if_neg hk, if_neg]
    rintro ⟨rfl, rfl⟩
    exact hk hp

lemma removesExactly_removeStream_iff (ty : RtcStreamType) (hm : Consistent m)
    (hs : m.streams p = some s) :
    RemovesExactly m p (m.removeStream ty s.uid s.streamName) ↔
      m.mapOf ty s.streamName = some p := by
  constructor
  · intro h
    have hgone : (m.removeStream ty s.uid s.streamName).streams p = none := by simp [h.streams]
    rcases removeStream_cases m ty s.uid s.streamName with ⟨hrm, -⟩ | ⟨q, hq, -, hrm⟩
    · rw [hrm, hs] at hgone
      cases hgone
    · rw [hrm, streams_forget] at hgone
      by_cases hpq : p = q
      · rw [hq, hpq]
      · rw [if_neg hpq, hs] at hgone
        cases hgone
  · intro hp
    rcases removeStream_cases m ty s.uid s.streamName with ⟨-, hne⟩ | ⟨q, hq, -, hrm⟩
    · exact absurd (by simp [uidAt, hs]) (hne p hp)
    · cases hp.symm.trans hq
      exact hrm ▸ RemovesExactly.of_forget hm hp

lemma Consistent.streamType_eq (hm : Consistent m) (hs : m.streams p = some s)
    (hp : m.mapOf ty n = some p) : s.streamType = ty := by
  obtain ⟨u, hu, hut, -⟩ := hm.entry ty n p hp
  cases hs.symm.trans hu
  exact hut

/-- What a stream wrote to itself before its report plays no part in its removal. -/
lemma removesExactly_store_iff (m m' : RtcStreamManager) (p : Ptr) (u : RtcStream) :
    RemovesExactly (m.store p u) p m' ↔ RemovesExactly m p m' := by
  have hstreams : ∀ q, (if q = p then none else (m.store p u).streams q) =
      if q = p then none else m.streams q := by
    intro q
    by_cases hq : q = p
    · simp [hq]
    · simp [hq, streams_store]
  constructor
  · exact fun h => ⟨fun q => (h.streams q).trans (hstreams q),
      fun ty n => by simpa using h.entries ty n⟩
  · exact fun h => ⟨fun q => (h.streams q).trans (hstreams q).symm,
      fun ty n => by simpa using h.entries ty n⟩

/-- A report of a failed connection is always answered by a removal from the push streams. -/
lemma streamConnectionState_kFailed (m : RtcStreamManager) (p : Ptr) (hstate : s.state ≠ .kFailed) :
    m.streamConnectionState p s .kFailed =
      (m.store p (s.setState .kFailed)).removeStream .kPush s.uid s.streamName := by
  have hp : (m.store p (s.setState .kFailed)).streams p =
      some (s.setState .kFailed) := by simp [streams_store]
  simp [streamConnectionState, hstate, onConnectionState, removePushStreamOf, removeStreamOf, hp]

lemma iceTimeoutCb_eq (hs : m.streams p = some s) (hstate : s.state ≠ .kConnected) :
    m.iceTimeoutCb p s = m.removeStream s.streamType s.uid s.streamName := by
  unfold iceTimeoutCb onStreamException
  rw [if_neg hstate, hs]
  cases hty : s.streamType <;>
    simp [hty, removePushStreamOf, removePullStreamOf, removeStreamOf, hs]

/-- A failed connection removes the reporting stream, and that stream alone, exactly for push
streams; a timeout does so exactly for streams that are still the entry of their name. -/
theorem failingStream_removed_iff (hm : Reachable Step initial m) (hs : m.streams p = some s) :
    (s.state ≠ .kFailed →
      (RemovesExactly m p (m.streamConnectionState p s .kFailed) ↔ s.streamType = .kPush)) ∧
    (s.state ≠ .kConnected →
      (RemovesExactly m p (m.iceTimeoutCb p s) ↔
        m.mapOf s.streamType s.streamName = some p)) := by
  have hcons := reachable_consistent hm
  refine ⟨fun hstate => ?_, fun hstate => ?_⟩
  · have hp : (m.store p (s.setState .kFailed)).streams p =
        some (s.setState .kFailed) := by simp [streams_store]
    have hstored : Consistent (m.store p (s.setState .kFailed)) :=
      hcons.store hs rfl rfl
    have hiff := removesExactly_removeStream_iff .kPush hstored hp
    rw [removesExactly_store_iff, mapOf_store] at hiff
    rw [streamConnectionState_kFailed m p hstate]
    refine hiff.trans ?_
    exact ⟨fun h => hcons.streamType_eq hs h, fun h => hcons.push p s hs h⟩
  · rw [iceTimeoutCb_eq hs hstate, removesExactly_removeStream_iff _ hcons hs]

/-- A user pushes a stream and watches it. -/
def loopback : RtcStreamManager :=
  ((initial.createPushStream 1 1 "live" true true 0).2.createPullStream 2 1 "live" true true 0).2

lemma loopback_reachable : Reachable Step initial loopback :=
  .step (e := .createPull 2 1 "live" true true 0)
    (.step (e := .createPush 1 1 "live" true true 0) .start rfl) rfl

/-- The push stream of the loopback goes with either report, its viewer with a timeout only. -/
theorem loopback_failingStream :
    (RemovesExactly loopback 1 (loopback.streamConnectionState 1
        ⟨.kPush, 1, "live", true, true, 0, .kNew, none, true⟩ .kFailed) ↔
      RtcStreamType.kPush = .kPush) ∧
    (RemovesExactly loopback 2 (loopback.iceTimeoutCb 2
        ⟨.kPull, 1, "live", true, true, 0, .kNew, none, true⟩) ↔
      loopback.mapOf .kPull "live" = some 2) :=
  ⟨(failingStream_removed_iff loopback_reachable (p := 1) rfl).1 (by decide),
    (failingStream_removed_iff loopback_reachable (p := 2) rfl).2 (by decide)⟩

/-- When the viewer of the loopback fails, the push stream is deleted in its place. -/
theorem loopback_viewer_removes_push :
    ¬ RemovesExactly loopback 2 (loopback.streamConnectionState 2
      ⟨.kPull, 1, "live", true, true, 0, .kNew, none, true⟩ .kFailed) := by
  intro h
  have hpush := h.streams 1
  revert hpush
  decide

end XrtcServer.Stream
