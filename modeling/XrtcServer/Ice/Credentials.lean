import XrtcServer.Ice.SelectionRuns

/-!
# Which password a connection gets

A connection that a request creates takes the password that the channel knows at that time. A
connection that exists when the answer arrives gets it where its ufrag is that of the answer. The
file says when the two ways agree, over runs in which one answer arrives.
-/

namespace XrtcServer.Ice
open XrtcServer.Base XrtcServer.Core IceTransportChannel

variable {ch ch' ch₁ : IceTransportChannel} {p q : ConnPtr} {now : Int}

/-! ## What keeps the remote candidates -/

/-- No remote candidate changes, and no connection comes. -/
structure KeepsRemote (ch ch' : IceTransportChannel) : Prop where
  remoteCandidate : ∀ p, (ch'.memory p).remoteCandidate = (ch.memory p).remoteCandidate
  remoteIceParams : ch'.remoteIceParams = ch.remoteIceParams
  mem : ∀ p ∈ ch'.iceController.connections, p ∈ ch.iceController.connections

lemma KeepsRemote.refl (ch : IceTransportChannel) : KeepsRemote ch ch :=
  ⟨fun _ => rfl, rfl, fun _ => id⟩

lemma KeepsRemote.trans (h : KeepsRemote ch ch₁) (h' : KeepsRemote ch₁ ch') : KeepsRemote ch ch' :=
  ⟨fun p => (h'.remoteCandidate p).trans (h.remoteCandidate p),
    h'.remoteIceParams.trans h.remoteIceParams, fun p hp => h.mem p (h'.mem p hp)⟩

lemma IceConnection.SameButSelected.remoteCandidate {c d : IceConnection}
    (h : c.SameButSelected d) : d.remoteCandidate = c.remoteCandidate := by
  obtain ⟨b, rfl⟩ := h
  rfl

@[simp] lemma remoteIceParams_switch (ch : IceTransportChannel) (c : Option ConnPtr) :
    (ch.switchSelectedConnection c).remoteIceParams = ch.remoteIceParams := by
  unfold switchSelectedConnection
  cases ch.selectedConnection <;> cases c <;> rfl

@[simp] lemma remoteIceParams_updateState (ch : IceTransportChannel) :
    ch.updateState.remoteIceParams = ch.remoteIceParams := by
  unfold updateState setWritable
  dsimp only
  split <;> rfl

lemma remoteIceParams_sort (ch : IceTransportChannel) (now : Int) :
    (ch.sortConnectionAndUpdateState now).remoteIceParams = ch.remoteIceParams := by
  unfold sortConnectionAndUpdateState
  dsimp only
  rw [sortAndSwitchConnection_snd, maybeStartPinging_eq]
  cases ch.sortAndSwitchConnection.1 with
  | none => exact remoteIceParams_updateState _
  | some t => exact (remoteIceParams_updateState _).trans (remoteIceParams_switch _ _)

lemma keepsRemote_sort (ch : IceTransportChannel) (now : Int) :
    KeepsRemote ch (ch.sortConnectionAndUpdateState now) := by
  have hres := ch.sortConnectionAndUpdateState_spec now
  refine ⟨fun p => (hres.memory p).remoteCandidate, remoteIceParams_sort ch now, fun p hp => ?_⟩
  rwa [hres.connections, mem_stableSort] at hp

lemma keepsRemote_modify (ch : IceTransportChannel) (p : ConnPtr)
    (f : IceConnection → IceConnection) (hf : ∀ c, (f c).remoteCandidate = c.remoteCandidate) :
    KeepsRemote ch (ch.modify p f) := by
  refine ⟨fun q => ?_, rfl, fun _ => id⟩
  rw [memory_modify]
  by_cases hq : q = p
  · rw [if_pos hq, hf, hq]
  · rw [if_neg hq]

lemma reports_keepsRemote : Reports KeepsRemote where
  refl := .refl
  trans := .trans
  modify ch p f hf := keepsRemote_modify ch p f hf.remoteCandidate
  sort := keepsRemote_sort

lemma SetsOnly.keepsRemote (h : SetsOnly ch ch') : KeepsRemote ch ch' := by
  obtain ⟨unpinged, pinged, rfl⟩ := h
  exact ⟨fun _ => rfl, rfl, fun _ => id⟩

lemma keepsRemote_onCheckAndPing (ch : IceTransportChannel) (id : TransactionId) (now : Int) :
    KeepsRemote ch (ch.onCheckAndPing id now) := by
  refine rel_onCheckAndPing .refl (fun _ _ _ => .trans)
    (fun ch p => reports_keepsRemote.updateConnectionState ch p now)
    (fun _ _ => SetsOnly.keepsRemote) (fun ch p => ?_) (fun _ _ => ⟨fun _ => rfl, rfl, fun _ hq => hq⟩) ch
  have hping := keepsRemote_modify ch p (ping id now) fun _ => rfl
  exact ⟨hping.remoteCandidate, hping.remoteIceParams, hping.mem⟩

lemma keepsRemote_destroy (ch : IceTransportChannel) (p : ConnPtr) (now : Int) :
    KeepsRemote ch (ch.destroy p now) := by
  have hforget : KeepsRemote ch (ch.forgetConnection p) :=
    ⟨fun _ => rfl, rfl, fun _ => List.mem_of_mem_erase⟩
  have hdestroyed : KeepsRemote ch (ch.onConnectionDestroyed p now) := by
    by_cases hs : ch.selectedConnection = some p
    · rw [onConnectionDestroyed_selected hs]
      refine hforget.trans (.trans ⟨fun q => ?_, remoteIceParams_switch .., fun q hq => ?_⟩
        (keepsRemote_sort _ now))
      · exact (memory_switch _ none q).remoteCandidate
      · rwa [iceController_switch_none] at hq
    · rw [onConnectionDestroyed_other hs]
      exact hforget.trans ⟨fun q => by rw [memory_updateState], remoteIceParams_updateState _,
        fun q hq => by rwa [iceController_updateState] at hq⟩
  exact ⟨hdestroyed.remoteCandidate, hdestroyed.remoteIceParams, hdestroyed.mem⟩

/-! ## The answer and the requests -/

/-- What `maybe_set_remote_ice_params` does. -/
def maybeSetRemoteIceParams (params : IceParameters) (c : IceConnection) : IceConnection :=
  if c.remoteCandidate.username = params.iceUfrag ∧ c.remoteCandidate.password = [] then
    { c with remoteCandidate := { c.remoteCandidate with password := params.icePwd } }
  else c

lemma memory_foldl_modify (f : IceConnection → IceConnection) {l : List ConnPtr} (hl : l.Nodup)
    (ch : IceTransportChannel) (q : ConnPtr) :
    (l.foldl (fun ch p => ch.modify p f) ch).memory q =
      if q ∈ l then f (ch.memory q) else ch.memory q := by
  induction l generalizing ch with
  | nil => rfl
  | cons p l ih =>
    obtain ⟨hp, hl⟩ := List.nodup_cons.mp hl
    rw [List.foldl_cons, ih hl, memory_modify]
    by_cases hq : q = p
    · subst hq
      rw [if_neg hp, if_pos rfl, if_pos List.mem_cons_self]
    · simp only [List.mem_cons, hq, false_or, if_false]

lemma iceController_foldl_modify (f : IceConnection → IceConnection) (l : List ConnPtr)
    (ch : IceTransportChannel) :
    (l.foldl (fun ch p => ch.modify p f) ch).iceController = ch.iceController ∧
      (l.foldl (fun ch p => ch.modify p f) ch).remoteIceParams = ch.remoteIceParams := by
  induction l generalizing ch with
  | nil => exact ⟨rfl, rfl⟩
  | cons p l ih => exact ih (ch.modify p f)

lemma setRemoteIceParams_spec (h : Listed ch) (params : IceParameters) (now : Int) :
    (ch.setRemoteIceParams params now).remoteIceParams = params ∧
      ∀ p ∈ (ch.setRemoteIceParams params now).iceController.connections,
        p ∈ ch.iceController.connections ∧
          ((ch.setRemoteIceParams params now).memory p).remoteCandidate =
            (maybeSetRemoteIceParams params (ch.memory p)).remoteCandidate := by
  set ch₁ := { ch with remoteIceParams := params }
  have hfold := iceController_foldl_modify (maybeSetRemoteIceParams params)
    ch.iceController.connections ch₁
  have hmem := memory_foldl_modify (maybeSetRemoteIceParams params) h.nodup ch₁
  have hsort := keepsRemote_sort
    (ch.iceController.connections.foldl
      (fun ch p => ch.modify p (maybeSetRemoteIceParams params)) ch₁) now
  refine ⟨hsort.remoteIceParams.trans hfold.2, fun p hp => ?_⟩
  have hlisted : p ∈ ch.iceController.connections := hfold.1 ▸ hsort.mem p hp
  refine ⟨hlisted, (hsort.remoteCandidate p).trans ?_⟩
  rw [hmem p, if_pos hlisted]

/-- A connection that a request has just created stands next to the ones before. -/
lemma added_spec (ch : IceTransportChannel) (p : ConnPtr) (conn : IceConnection) (now : Int) :
    let ch' := ((ch.newConnection p conn).addConnection p).sortConnectionAndUpdateState now
    ch'.remoteIceParams = ch.remoteIceParams ∧ p ∈ ch'.iceController.connections ∧
      (ch'.memory p).remoteCandidate = conn.remoteCandidate ∧
        ∀ q ∈ ch'.iceController.connections, q ≠ p → q ∈ ch.iceController.connections ∧
          (ch'.memory q).remoteCandidate = (ch.memory q).remoteCandidate := by
  intro ch'
  have hsort := keepsRemote_sort ((ch.newConnection p conn).addConnection p) now
  have hconns := (sortConnectionAndUpdateState_spec
    ((ch.newConnection p conn).addConnection p) now).connections
  refine ⟨hsort.remoteIceParams, ?_, ?_, fun q hq hqp => ⟨?_, ?_⟩⟩
  · rw [hconns, mem_stableSort]
    exact List.mem_append_right _ (List.mem_singleton.mpr rfl)
  · rw [hsort.remoteCandidate]
    exact congrArg IceConnection.remoteCandidate (Function.update_self ..)
  · rcases List.mem_append.mp (hsort.mem q hq) with hold | hnew
    · exact hold
    · exact absurd (List.mem_singleton.mp hnew) hqp
  · rw [hsort.remoteCandidate]
    exact congrArg IceConnection.remoteCandidate (Function.update_of_ne hqp ..)

/-! ## When the controller pings -/

/-- Some time comes at which the controller may ping exactly the connections of which it knows the
ufrag and the password. -/
lemma exists_isPingable_iff (ch : IceTransportChannel) (p : ConnPtr) :
    (∃ now, ch.isPingable p now = true) ↔
      (ch.memory p).remoteCandidate.username ≠ [] ∧
        (ch.memory p).remoteCandidate.password ≠ [] := by
  constructor
  · rintro ⟨now, h⟩
    unfold isPingable at h
    dsimp only at h
    split at h
    · cases h
    · rename_i hknown
      simpa using hknown
  · intro hknown
    refine ⟨(ch.memory p).lastPingSent + stableConnectionPingInterval, ?_⟩
    unfold isPingable isConnectionPastPingInterval
    dsimp only
    rw [if_neg (by simpa using hknown)]
    split
    · rfl
    · unfold getConnectionPingInterval weakPingInterval stablingConnectionPingInterval
        stableConnectionPingInterval
      rw [decide_eq_true_eq]
      split
      · omega
      · split <;> omega

/-! ## Runs -/

/-- The password that the answer intends for a candidate; there is none before the answer. -/
def intendedPassword (answer : Option IceParameters) (remoteUfrag : Bytes) : Bytes :=
  match answer with
  | none => []
  | some params => if remoteUfrag = params.iceUfrag then params.icePwd else []

/-- The answer comes once, and with a ufrag and a password. -/
def AnswersOnce (answer : Option IceParameters) : Event → Prop
  | .setRemoteIceParams params _ => answer = none ∧ params.iceUfrag ≠ [] ∧ params.icePwd ≠ []
  | _ => True

def answerAfter (answer : Option IceParameters) : Event → Option IceParameters
  | .setRemoteIceParams params _ => some params
  | _ => answer

/-- The steps of a channel to which one answer comes, with the answer that came. -/
def AnswerStep (s : IceTransportChannel × Option IceParameters) (e : Event)
    (t : IceTransportChannel × Option IceParameters) : Prop :=
  Step s.1 e t.1 ∧ AnswersOnce s.2 e ∧ t.2 = answerAfter s.2 e

/-- Since the answer, a connection has its password if it has its ufrag and none otherwise, and the
controller pings the former only. -/
def CredentialsSettled (s : IceTransportChannel × Option IceParameters) : Prop :=
  ∀ params ∈ s.2, ∀ p ∈ s.1.iceController.connections,
    let remote := (s.1.memory p).remoteCandidate
    remote.password = (if remote.username = params.iceUfrag then params.icePwd else []) ∧
      ((∃ now, s.1.isPingable p now = true) ↔ remote.username = params.iceUfrag)

/-- A request that creates a connection after the answer has the ufrag of the answer. -/
def RequestMatches (s : IceTransportChannel × Option IceParameters) : Event → Prop
  | .unknownAddress _ _ _ _ (some _) remoteUfrag _ =>
    ∀ params ∈ s.2, remoteUfrag = params.iceUfrag
  | _ => True

/-- The invariant of such runs. -/
structure AnswerInv (s : IceTransportChannel × Option IceParameters) : Prop where
  listed : Listed s.1
  icePwd : s.1.remoteIceParams.icePwd = (s.2.map IceParameters.icePwd).getD []
  nonempty : ∀ params ∈ s.2, params.iceUfrag ≠ [] ∧ params.icePwd ≠ []
  password : ∀ p ∈ s.1.iceController.connections,
    (s.1.memory p).remoteCandidate.password =
      intendedPassword s.2 (s.1.memory p).remoteCandidate.username

variable {s : IceTransportChannel × Option IceParameters}

lemma AnswerInv.settled (h : AnswerInv s) : CredentialsSettled s := by
  intro params hparams p hp remote
  have hpassword : remote.password =
      if remote.username = params.iceUfrag then params.icePwd else [] := by
    rw [h.password p hp, Option.mem_def.mp hparams]
    rfl
  obtain ⟨hufrag, hpwd⟩ := h.nonempty params hparams
  refine ⟨hpassword, ?_⟩
  rw [exists_isPingable_iff]
  change remote.username ≠ [] ∧ remote.password ≠ [] ↔ _
  rw [hpassword]
  by_cases hsame : remote.username = params.iceUfrag
  · simp [hsame, hufrag, hpwd]
  · simp [hsame]

/-- An event that keeps the candidates. -/
lemma AnswerInv.keepsRemote (h : AnswerInv s) (hlisted : Listed ch') (hk : KeepsRemote s.1 ch') :
    AnswerInv (ch', s.2) where
  listed := hlisted
  icePwd := hk.remoteIceParams ▸ h.icePwd
  nonempty := h.nonempty
  password p hp := by
    rw [hk.remoteCandidate]
    exact h.password p (hk.mem p hp)

lemma intendedPassword_of_matches (h : AnswerInv s) {remoteUfrag : Bytes}
    (hmatch : ∀ params ∈ s.2, remoteUfrag = params.iceUfrag) :
    s.1.remoteIceParams.icePwd = intendedPassword s.2 remoteUfrag := by
  rw [h.icePwd]
  cases hs : s.2 with
  | none => rfl
  | some params => exact (if_pos (hmatch params hs)).symm

lemma AnswerInv.apply {e : Event} (h : AnswerInv s) (honce : AnswersOnce s.2 e)
    (hmatch : RequestMatches s e) (he : apply s.1 e = some ch') :
    AnswerInv (ch', answerAfter s.2 e) := by
  have hlisted := h.listed.apply he
  have hreports := reports_keepsRemote
  cases applied_of_apply he with
  | ignored => exact h
  | @added p _ _ _ _ remoteUfrag now conn _ hconn =>
    obtain ⟨hparams, -, hnew, hold⟩ := added_spec s.1 p conn now
    refine ⟨hlisted, hparams ▸ h.icePwd, h.nonempty, fun q hq => ?_⟩
    by_cases hqp : q = p
    · rw [hqp, hnew, hconn]
      exact intendedPassword_of_matches h hmatch
    · obtain ⟨hmem, hsame⟩ := hold q hq hqp
      rw [hsame]
      exact h.password q hmem
  | @answered p _ ts now =>
    have hrecord := keepsRemote_modify s.1 p (recordResponse (toInt (now - ts)) now) fun _ => rfl
    exact h.keepsRemote hlisted
      ((hrecord.trans (hreports.receivedPingResponse ..)).trans (hreports.removeRequest ..))
  | retried => exact h.keepsRemote hlisted (hreports.removeRequest ..)
  | failed =>
    exact h.keepsRemote hlisted
      (((hreports.removeRequest ..).trans (hreports.fail ..)).trans (keepsRemote_destroy ..))
  | checked => exact h.keepsRemote hlisted (keepsRemote_onCheckAndPing ..)
  | @informed params now =>
    obtain ⟨hbefore, hnonempty⟩ := honce
    obtain ⟨hparams, hconns⟩ := setRemoteIceParams_spec h.listed params now
    refine ⟨hlisted, congrArg IceParameters.icePwd hparams, ?_, fun p hp => ?_⟩
    · rintro _ ⟨⟩
      exact hnonempty
    · obtain ⟨hmem, hsame⟩ := hconns p hp
      have hempty : (s.1.memory p).remoteCandidate.password = [] := by
        rw [h.password p hmem, hbefore]
        rfl
      rw [hsame, maybeSetRemoteIceParams, hempty]
      by_cases hufrag : (s.1.memory p).remoteCandidate.username = params.iceUfrag
      · rw [if_pos ⟨hufrag, rfl⟩]
        exact (if_pos hufrag).symm
      · rw [if_neg fun h => hufrag h.1, hempty]
        exact (if_neg hufrag).symm
  | destroyed => exact h.keepsRemote hlisted (keepsRemote_destroy ..)

lemma requestMatches_of_settled {e : Event} (h : AnswerInv s) (he : apply s.1 e = some ch')
    (hsettled : CredentialsSettled (ch', answerAfter s.2 e)) : RequestMatches s e := by
  cases applied_of_apply he with
  | @added p _ _ addr priority remoteUfrag now conn _ hconn =>
    intro params hparams
    obtain ⟨-, hmem, hnew, -⟩ := added_spec s.1 p conn now
    have hcandidate : conn.remoteCandidate = s.1.remoteCandidate addr remoteUfrag priority :=
      congrArg IceConnection.remoteCandidate hconn
    have hpassword := (hsettled params hparams p hmem).1
    dsimp only at hpassword
    rw [hnew, hcandidate] at hpassword
    by_contra hother
    have hufrag : (s.1.remoteCandidate addr remoteUfrag priority).username ≠ params.iceUfrag :=
      hother
    have hknown : s.1.remoteIceParams.icePwd = params.icePwd := by
      rw [h.icePwd, Option.mem_def.mp hparams]
      rfl
    rw [if_neg hufrag] at hpassword
    exact (h.nonempty params hparams).2 (hknown.symm.trans hpassword)
  | _ => trivial

lemma answerInv_initial (memory : ConnPtr → IceConnection) : AnswerInv (initial memory, none) where
  listed := listed_initial memory
  icePwd := rfl
  nonempty _ h := by cases h
  password p hp := by cases hp

/-- What freed connections leave in memory is not read. -/
lemma AnswerInv.congr {answer : Option IceParameters} (h : AnswerInv (ch, answer))
    {memory : ConnPtr → IceConnection} (hmem : ∀ p, ch.live p = true → memory p = ch.memory p) :
    AnswerInv ({ ch with memory := memory }, answer) := by
  refine ⟨⟨h.listed.mem, h.listed.nodup, h.listed.live⟩, h.icePwd, h.nonempty, fun p hp => ?_⟩
  dsimp only
  rw [hmem p ((h.listed.live p).mp hp)]
  exact h.password p hp

/-- The credentials are settled throughout a run with one answer exactly when every request that
creates a connection after the answer has the ufrag of the answer. -/
theorem credentialsSettled_iff (memory : ConnPtr → IceConnection) (es : List Event) :
    Along AnswerStep CredentialsSettled (initial memory, none) es ↔
      Meets AnswerStep RequestMatches (initial memory, none) es := by
  apply along_iff_meets (I := AnswerInv)
  · exact fun s h => h.settled
  · rintro s e ⟨ch', answer'⟩ h hmatch ⟨⟨ch₁, mem, he, hmem, rfl⟩, honce, rfl⟩
    exact (h.apply honce hmatch he).congr hmem
  · rintro s e ⟨ch', answer'⟩ h ⟨⟨ch₁, mem, he, hmem, rfl⟩, honce, rfl⟩ hsettled
    have hlisted := h.listed.apply he
    refine requestMatches_of_settled h he fun params hparams p hp => ?_
    have hlive := hmem p ((hlisted.live p).mp hp)
    have hp' := hsettled params hparams p hp
    rw [exists_isPingable_iff] at hp' ⊢
    dsimp only at hp' ⊢
    rwa [hlive] at hp'
  · exact answerInv_initial memory

/-- A request with another ufrag comes after the answer, and its connection gets the password. -/
theorem lateRequest_gets_password :
    ¬ Along AnswerStep CredentialsSettled
      (initial fun _ =>
        { port := 0, localPriority := 0, remoteCandidate := ⟨⟨[], 0⟩, [], [], 0⟩ }, none)
      [.setRemoteIceParams ⟨[117], [112]⟩ 0,
        .unknownAddress 1 0 100 ⟨[10, 0, 0, 1], 5000⟩ (some 200) [118] 1] := by
  intro h
  have hanswered := h.2 (_, some ⟨[117], [112]⟩)
    ⟨⟨_, _, rfl, fun _ _ => rfl, rfl⟩, ⟨rfl, by decide, by decide⟩, rfl⟩
  have hlast := (hanswered.2 (_, some ⟨[117], [112]⟩)
    ⟨⟨_, _, rfl, fun _ _ => rfl, rfl⟩, trivial, rfl⟩).head
  have hpassword := (hlast _ rfl 1 (by decide)).1
  revert hpassword
  decide

end XrtcServer.Ice
