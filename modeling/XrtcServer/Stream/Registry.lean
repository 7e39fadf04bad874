import XrtcServer.Stream.Manager

/-!
# Streams and the maps that hold them

A live stream can be reached again only through the map of its type. This file derives what one
operation does to objects and maps from three edits, and from it when the maps account for every
live stream and when a failing stream is the one that goes.
-/

namespace XrtcServer.Stream
open XrtcServer.Core RtcStreamManager

variable {m m' : RtcStreamManager} {ty t : RtcStreamType} {n k : String} {p q : Ptr}
  {s u : RtcStream}

namespace RtcStreamManager

/-- The edit of a removal: the entry and the object go. -/
def forget (m : RtcStreamManager) (ty : RtcStreamType) (n : String) (p : Ptr) :
    RtcStreamManager :=
  (m.erase ty n).delete p

/-- The edit of a creation: a new object and its entry. -/
def enter (m : RtcStreamManager) (p : Ptr) (s : RtcStream) : RtcStreamManager :=
  (m.store p s).assign s.streamType s.streamName p

lemma mapOf_withMap (m : RtcStreamManager) (ty t : RtcStreamType) (f : String → Option Ptr) :
    (m.withMap ty f).mapOf t = if t = ty then f else m.mapOf t := by
  cases ty <;> cases t <;> rfl

@[simp] lemma streams_withMap (m : RtcStreamManager) (ty : RtcStreamType)
    (f : String → Option Ptr) : (m.withMap ty f).streams = m.streams := by
  cases ty <;> rfl

@[simp] lemma mapOf_store (m : RtcStreamManager) (p : Ptr) (s : RtcStream) (t : RtcStreamType) :
    (m.store p s).mapOf t = m.mapOf t := by
  cases t <;> rfl

@[simp] lemma mapOf_delete (m : RtcStreamManager) (p : Ptr) (t : RtcStreamType) :
    (m.delete p).mapOf t = m.mapOf t := by
  cases t <;> rfl

lemma streams_store (m : RtcStreamManager) (p q : Ptr) (s : RtcStream) :
    (m.store p s).streams q = if q = p then some s else m.streams q := by
  simp [store, Function.update_apply]

lemma mapOf_forget (m : RtcStreamManager) (ty t : RtcStreamType) (n k : String) (p : Ptr) :
    (m.forget ty n p).mapOf t k = if t = ty ∧ k = n then none else m.mapOf t k := by
  by_cases ht : t = ty
  · subst ht
    simp [forget, erase, mapOf_withMap, Function.update_apply]
  · simp [forget, erase, mapOf_withMap, ht]

lemma streams_forget (m : RtcStreamManager) (ty : RtcStreamType) (n : String) (p q : Ptr) :
    (m.forget ty n p).streams q = if q = p then none else m.streams q := by
  simp [forget, erase, delete, Function.update_apply]

lemma mapOf_enter (m : RtcStreamManager) (p : Ptr) (s : RtcStream) (t : RtcStreamType)
    (k : String) : (m.enter p s).mapOf t k =
      if t = s.streamType ∧ k = s.streamName then some p else m.mapOf t k := by
  by_cases ht : t = s.streamType
  · subst ht
    simp [enter, assign, mapOf_withMap, Function.update_apply]
  · simp [enter, assign, mapOf_withMap, ht]

lemma streams_enter (m : RtcStreamManager) (p q : Ptr) (s : RtcStream) :
    (m.enter p s).streams q = if q = p then some s else m.streams q := by
  simp [enter, assign, streams_store]

end RtcStreamManager

/-- Every live stream of a type is the entry of its own name. -/
def Registered (m : RtcStreamManager) (ty : RtcStreamType) : Prop :=
  ∀ p s, m.streams p = some s → s.streamType = ty → m.mapOf ty s.streamName = some p

/-- What every operation keeps: entries refer to live streams of their type and name, and push
streams are all registered. -/
structure Consistent (m : RtcStreamManager) : Prop where
  entry : ∀ ty n p, m.mapOf ty n = some p →
    ∃ s, m.streams p = some s ∧ s.streamType = ty ∧ s.streamName = n
  push : Registered m .kPush

/-! ## The three edits -/

lemma Registered.forget (h : Registered m t) (hp : m.mapOf ty n = some p) :
    Registered (m.forget ty n p) t := by
  intro q u hq hu
  rw [streams_forget] at hq
  by_cases hqp : q = p
  · simp [hqp] at hq
  · rw [if_neg hqp] at hq
    have hmap := h q u hq hu
    rw [mapOf_forget, if_neg]
    · exact hmap
    · rintro ⟨rfl, rfl⟩
      exact hqp (Option.some.inj (hmap.symm.trans hp))

lemma Registered.enter (h : Registered m t) (hp : m.streams p = none)
    (hfree : t = s.streamType → m.mapOf t s.streamName = none) : Registered (m.enter p s) t := by
  intro q u hq hu
  rw [streams_enter] at hq
  rw [mapOf_enter]
  by_cases hqp : q = p
  · subst hqp
    simp only [if_true, Option.some.injEq] at hq
    subst hq
    simp [hu]
  · rw [if_neg hqp] at hq
    have hmap := h q u hq hu
    rw [if_neg]
    · exact hmap
    · rintro ⟨rfl, hk⟩
      rw [hk, hfree rfl] at hmap
      cases hmap

lemma Registered.store (h : Registered m t) (hp : m.streams p = some s)
    (hty : u.streamType = s.streamType) (hname : u.streamName = s.streamName) :
    Registered (m.store p u) t := by
  intro q v hq hv
  rw [streams_store] at hq
  rw [mapOf_store]
  by_cases hqp : q = p
  · subst hqp
    simp only [if_true, Option.some.injEq] at hq
    subst hq
    rw [hname]
    exact h q s hp (hty.symm.trans hv)
  · rw [if_neg hqp] at hq
    exact h q v hq hv

lemma Consistent.forget (h : Consistent m) (hp : m.mapOf ty n = some p) :
    Consistent (m.forget ty n p) := by
  refine ⟨fun t k q hq => ?_, h.push.forget hp⟩
  rw [mapOf_forget] at hq
  by_cases hk : t = ty ∧ k = n
  · simp [hk] at hq
  · rw [if_neg hk] at hq
    obtain ⟨u, hu, hut, hun⟩ := h.entry t k q hq
    refine ⟨u, ?_, hut, hun⟩
    rw [streams_forget, if_neg]
    · exact hu
    · rintro rfl
      obtain ⟨v, hv, hvt, hvn⟩ := h.entry ty n q hp
      rw [hu] at hv
      cases hv
      exact hk ⟨hut.symm.trans hvt, hun.symm.trans hvn⟩

lemma Consistent.enter (h : Consistent m) (hp : m.streams p = none)
    (hfree : s.streamType = .kPush → m.mapOf .kPush s.streamName = none) :
    Consistent (m.enter p s) := by
  refine ⟨fun t k q hq => ?_, h.push.enter hp (fun ht => hfree ht.symm)⟩
  rw [mapOf_enter] at hq
  rw [streams_enter]
  by_cases hk : t = s.streamType ∧ k = s.streamName
  · rw [if_pos hk, Option.some.injEq] at hq
    exact ⟨s, by simp [hq], hk.1.symm, hk.2.symm⟩
  · rw [if_neg hk] at hq
    obtain ⟨u, hu, hut, hun⟩ := h.entry t k q hq
    refine ⟨u, ?_, hut, hun⟩
    rw [if_neg]
    · exact hu
    · rintro rfl
      simp [hp] at hu

lemma Consistent.store (h : Consistent m) (hp : m.streams p = some s)
    (hty : u.streamType = s.streamType) (hname : u.streamName = s.streamName) :
    Consistent (m.store p u) := by
  refine ⟨fun t k q hq => ?_, h.push.store hp hty hname⟩
  rw [mapOf_store] at hq
  obtain ⟨v, hv, hvt, hvn⟩ := h.entry t k q hq
  rw [streams_store]
  by_cases hqp : q = p
  · subst hqp
    rw [hp] at hv
    cases hv
    exact ⟨u, by simp, hty.trans hvt, hname.trans hvn⟩
  · exact ⟨v, by simp [hqp, hv], hvt, hvn⟩

/-! ## What an operation does -/

/-- Sequences of edits that overwrite no entry of a `kept` type. -/
inductive Edits (kept : RtcStreamType → Prop) (m : RtcStreamManager) : RtcStreamManager → Prop
  | refl : Edits kept m m
  | forget {m₁ : RtcStreamManager} {ty : RtcStreamType} {n : String} {p : Ptr}
      (h : Edits kept m m₁) (hp : m₁.mapOf ty n = some p) : Edits kept m (m₁.forget ty n p)
  | store {m₁ : RtcStreamManager} {p : Ptr} {s u : RtcStream} (h : Edits kept m m₁)
      (hp : m₁.streams p = some s) (hty : u.streamType = s.streamType)
      (hname : u.streamName = s.streamName) : Edits kept m (m₁.store p u)
  | enter {m₁ : RtcStreamManager} {p : Ptr} {s : RtcStream} (h : Edits kept m m₁)
      (hp : m₁.streams p = none)
      (hfree : kept s.streamType → m₁.mapOf s.streamType s.streamName = none) :
      Edits kept m (m₁.enter p s)

variable {kept : RtcStreamType → Prop}

lemma Edits.registered (h : Edits kept m m') (ht : kept t) (hm : Registered m t) :
    Registered m' t := by
  induction h with
  | refl => exact hm
  | forget _ hp ih => exact ih.forget hp
  | store _ hp hty hname ih => exact ih.store hp hty hname
  | enter _ hp hfree ih => exact ih.enter hp (fun hs => hs ▸ hfree (hs ▸ ht))

lemma Edits.consistent (h : Edits kept m m') (hk : kept .kPush) (hm : Consistent m) :
    Consistent m' := by
  induction h with
  | refl => exact hm
  | forget _ hp ih => exact ih.forget hp
  | store _ hp hty hname ih => exact ih.store hp hty hname
  | enter _ hp hfree ih => exact ih.enter hp (fun hs => hs ▸ hfree (hs ▸ hk))

lemma Edits.trans {m₁ : RtcStreamManager} (h : Edits kept m m₁) (h' : Edits kept m₁ m') :
    Edits kept m m' := by
  induction h' with
  | refl => exact h
  | forget _ hp ih => exact ih.forget hp
  | store _ hp hty hname ih => exact ih.store hp hty hname
  | enter _ hp hfree ih => exact ih.enter hp hfree

lemma removeStream_cases (m : RtcStreamManager) (ty : RtcStreamType) (uid : UInt64) (n : String) :
    (m.removeStream ty uid n = m ∧ ∀ p, m.mapOf ty n = some p → m.uidAt p ≠ some uid) ∨
    ∃ p, m.mapOf ty n = some p ∧ m.uidAt p = some uid ∧
      m.removeStream ty uid n = m.forget ty n p := by
  unfold removeStream findStream
  cases hp : m.mapOf ty n with
  | none => exact Or.inl ⟨rfl, fun p h => by cases h⟩
  | some p =>
    by_cases hu : m.uidAt p = some uid
    · exact Or.inr ⟨p, rfl, hu, by simp [hu, forget]⟩
    · exact Or.inl ⟨by simp [hu], fun q hq => by cases hq; exact hu⟩

lemma edits_removeStream (m : RtcStreamManager) (ty : RtcStreamType) (uid : UInt64)
    (n : String) : Edits kept m (m.removeStream ty uid n) := by
  rcases removeStream_cases m ty uid n with ⟨h, -⟩ | ⟨p, hp, -, h⟩
  · rw [h]; exact .refl
  · rw [h]; exact .forget .refl hp

lemma edits_removeStreamOf (m : RtcStreamManager) (ty : RtcStreamType) (p : Ptr) :
    Edits kept m (m.removeStreamOf ty p) := by
  unfold removeStreamOf
  split
  · exact .refl
  · exact edits_removeStream ..

lemma edits_answerStream (m : RtcStreamManager) (ty : RtcStreamType) (uid : UInt64)
    (n a : String) : Edits kept m (m.answerStream ty uid n a).2 := by
  unfold answerStream setRemoteSdp
  split
  · exact .refl
  · split
    · dsimp only
      split
      · exact .refl
      · rename_i hs
        exact .store .refl hs rfl rfl
    · exact .refl

lemma dropPushStream_spec (kept : RtcStreamType → Prop) (m : RtcStreamManager) (n : String) :
    Edits kept m (m.dropPushStream n) ∧ (m.dropPushStream n).mapOf .kPush n = none := by
  unfold dropPushStream findPushStream findStream
  cases hp : m.mapOf .kPush n with
  | none => exact ⟨.refl, hp⟩
  | some p => exact ⟨.forget .refl hp, by simp [erase, mapOf_withMap]⟩

lemma edits_streamConnectionState (state : PeerConnectionState) (hs : m.streams p = some s) :
    Edits kept m (m.streamConnectionState p s state) := by
  unfold streamConnectionState onConnectionState
  split
  · exact .refl
  · have hstore : Edits kept m (m.store p (s.setState state)) := .store .refl hs rfl rfl
    split
    · exact hstore.trans (edits_removeStreamOf ..)
    · exact hstore

lemma edits_iceTimeoutCb (m : RtcStreamManager) (p : Ptr) (s : RtcStream) :
    Edits kept m (m.iceTimeoutCb p s) := by
  unfold iceTimeoutCb onStreamException
  split
  · exact .refl
  · split
    · exact .refl
    · split
      · exact edits_removeStreamOf ..
      · exact edits_removeStreamOf ..

/-- The condition on an operation: no viewer asks for a stream that another uid is watching. -/
def OneViewer (m : RtcStreamManager) : Operation → Prop
  | .createPull _ uid n _ _ _ => m.findPushStream n ≠ none →
      ∀ p, m.findPullStream n = some p → m.uidAt p = some uid
  | _ => True

/-- The inversion of an operation. Only a pull stream can be overwritten in its map. -/
lemma edits_apply (kept : RtcStreamType → Prop) {o : Operation} (h : apply m o = some m')
    (hpull : kept .kPull → OneViewer m o) : Edits kept m m' := by
  cases o with
  | createPush p uid n audio video logId =>
    simp only [apply] at h
    obtain ⟨hp, h⟩ := Option.ite_none_right_eq_some.mp h
    cases h
    obtain ⟨hdrop, hnone⟩ := dropPushStream_spec kept m n
    exact .enter (s := { streamType := .kPush, uid, streamName := n, audio, video, logId }) hdrop hp
      (fun _ => hnone)
  | createPull p uid n audio video logId =>
    simp only [apply] at h
    obtain ⟨hp, h⟩ := Option.ite_none_right_eq_some.mp h
    cases h
    unfold createPullStream
    cases hpush : m.findPushStream n with
    | none => exact .refl
    | some q =>
      refine .enter (s := { streamType := .kPull, uid, streamName := n, audio, video, logId })
        (edits_removeStream m .kPull uid n) hp (fun hkept => ?_)
      have hone := hpull hkept (by simp [hpush])
      rcases removeStream_cases m .kPull uid n with ⟨hm, hne⟩ | ⟨r, hr, -, hm⟩
      · cases hr : m.mapOf .kPull n with
        | none => rw [removePullStream, hm, hr]
        | some r => exact absurd (hone r hr) (hne r hr)
      · rw [removePullStream, hm, mapOf_forget, if_pos ⟨rfl, rfl⟩]
  | answer uid n a streamType =>
    simp only [apply, Option.some.injEq] at h
    subst h
    unfold setAnswer
    split
    · exact edits_answerStream ..
    · split
      · exact edits_answerStream ..
      · exact .refl
  | stopPush uid n =>
    cases h
    exact edits_removeStream m .kPush uid n
  | stopPull uid n =>
    cases h
    exact edits_removeStream m .kPull uid n
  | connectionState p state =>
    obtain ⟨s, hs, rfl⟩ := Option.map_eq_some_iff.mp h
    exact edits_streamConnectionState state hs
  | iceTimeout p =>
    obtain ⟨s, hs, h⟩ := Option.bind_eq_some_iff.mp h
    obtain ⟨-, h⟩ := Option.ite_none_right_eq_some.mp h
    cases h
    have hstore : Edits kept m (m.store p { s with iceTimeoutWatcher := false }) :=
      .store .refl hs rfl rfl
    exact hstore.trans (edits_iceTimeoutCb ..)

lemma consistent_initial : Consistent initial := by
  constructor
  · intro ty n p h
    cases ty <;> cases h
  · intro p s h
    cases h

lemma Consistent.step (hm : Consistent m) {o : Operation} (h : Step m o m') : Consistent m' :=
  (edits_apply (· = .kPush) h (fun hk => by cases hk)).consistent rfl hm

/-- Entries refer to live streams of their own name in every reachable state. -/
theorem reachable_consistent (h : Reachable Step initial m) : Consistent m :=
  h.invariant consistent_initial (fun _ _ _ ht hstep => ht.step hstep)

/-! ## When the maps account for every live stream -/

/-- Every live stream is the value of exactly one entry of its map, that of its own name. -/
def Accounted (m : RtcStreamManager) : Prop :=
  ∀ p s, m.streams p = some s → ∀ n, m.mapOf s.streamType n = some p ↔ n = s.streamName

lemma Consistent.accounted (hm : Consistent m) (hpull : Registered m .kPull) : Accounted m := by
  intro p s hs n
  constructor
  · intro hn
    obtain ⟨u, hu, -, hun⟩ := hm.entry _ n p hn
    rw [hs] at hu
    cases hu
    exact hun.symm
  · rintro rfl
    cases hty : s.streamType with
    | kPush => exact hm.push p s hs hty
    | kPull => exact hpull p s hs hty

/-- A viewer with another uid leaves the stream it replaces alive and out of the map. -/
lemma oneViewer_of_accounted (hm : Consistent m) {o : Operation} (h : Step m o m')
    (hacc : Accounted m') : OneViewer m o := by
  cases o with
  | createPull p uid n audio video logId =>
    intro hpush q hq
    by_contra huid
    unfold Step at h
    simp only [apply] at h
    obtain ⟨hp, h⟩ := Option.ite_none_right_eq_some.mp h
    cases h
    obtain ⟨u, hu, hut, hun⟩ := hm.entry .kPull n q hq
    rcases removeStream_cases m .kPull uid n with ⟨hrm, -⟩ | ⟨r, hr, hru, -⟩
    · set s : RtcStream :=
        { streamType := .kPull, uid, streamName := n, audio, video, logId } with hs
      have henter : (m.createPullStream p uid n audio video logId).2 = m.enter p s := by
        obtain ⟨r, hr⟩ := Option.ne_none_iff_exists'.mp hpush
        simp [createPullStream, hr, removePullStream, hrm, enter, hs]
      have hpq : q ≠ p := by
        rintro rfl
        rw [removePullStream, hrm, hu] at hp
        cases hp
      rw [henter] at hacc
      have hlive : (m.enter p s).streams q = some u := by rw [streams_enter, if_neg hpq, hu]
      have hentry := (hacc q u hlive n).mpr hun.symm
      rw [hut, mapOf_enter, if_pos ⟨rfl, rfl⟩] at hentry
      exact hpq (Option.some.inj hentry).symm
    · cases hq.symm.trans hr
      exact huid hru
  | _ => trivial

/-- The maps account for every live stream throughout a run exactly when no viewer ever asks for
a stream that another uid is watching. -/
theorem liveStreams_accounted_iff (ops : List Operation) :
    Along Step Accounted initial ops ↔ Meets Step OneViewer initial ops := by
  apply along_iff_meets (I := fun m => Consistent m ∧ Registered m .kPull)
  · exact fun m hm => hm.1.accounted hm.2
  · intro m o m' hm hone h
    have hedits := edits_apply (fun _ => True) h (fun _ => hone)
    exact ⟨hedits.consistent trivial hm.1, hedits.registered trivial hm.2⟩
  · exact fun m o m' hm h hacc => oneViewer_of_accounted hm.1 h hacc
  · exact ⟨consistent_initial, fun p s h => by cases h⟩

/-- Two viewers of one stream: the second leaves the first alive and unreachable. -/
theorem secondViewer_not_accounted :
    ¬ Along Step Accounted initial
      [.createPush 1 1 "live" true true 0, .createPull 2 2 "live" true true 0,
        .createPull 3 3 "live" true true 0] := by
  intro h
  have hacc := (((h.2 _ rfl).2 _ rfl).2 _ rfl).head
  have hentry := (hacc 2 ⟨.kPull, 2, "live", true, true, 0, .kNew, none, true⟩ rfl "live").mpr rfl
  revert hentry
  decide

end XrtcServer.Stream
