import Mathlib.Data.List.Induction

/-!
# Runs of a labelled machine

A machine is a relation `R s e t`: in state `s` the event `e` can lead to `t`. `Along R P s es`
says that `P` holds in every state reached while the events `es` are fed from `s`, and
`Meets R C s es` that every step taken on the way meets the condition `C` on its event and the
state before it. The rules below turn step lemmas into statements about whole runs.
-/

namespace XrtcServer.Core

variable {σ ε : Type*} {R : σ → ε → σ → Prop} {P I : σ → Prop} {C : σ → ε → Prop}

/-- `P` holds in every state reached while `es` is fed from `s`. -/
def Along (R : σ → ε → σ → Prop) (P : σ → Prop) : σ → List ε → Prop
  | s, [] => P s
  | s, e :: es => P s ∧ ∀ t, R s e t → Along R P t es

/-- Every step taken while `es` is fed from `s` meets `C`. -/
def Meets (R : σ → ε → σ → Prop) (C : σ → ε → Prop) : σ → List ε → Prop
  | _, [] => True
  | s, e :: es => ∀ t, R s e t → C s e ∧ Meets R C t es

/-- The states that some sequence of events leads to. -/
inductive Reachable (R : σ → ε → σ → Prop) (s : σ) : σ → Prop
  | start : Reachable R s s
  | step {t u : σ} {e : ε} (h : Reachable R s t) (hstep : R t e u) : Reachable R s u

/-- The events `es`, the last one at the end, lead from `s` to `t`. -/
inductive Leads (R : σ → ε → σ → Prop) (s : σ) : List ε → σ → Prop
  | nil : Leads R s [] s
  | snoc {es : List ε} {t u : σ} {e : ε} (h : Leads R s es t) (hstep : R t e u) :
      Leads R s (es ++ [e]) u

/-- The run rule for what relates a state to the events that led to it. -/
theorem Leads.invariant {J : List ε → σ → Prop} {s t : σ} {es : List ε} (h : Leads R s es t)
    (hs : J [] s) (hstep : ∀ es t e u, J es t → R t e u → J (es ++ [e]) u) : J es t := by
  induction h with
  | nil => exact hs
  | snoc _ hR ih => exact hstep _ _ _ _ ih hR

/-- Where a machine can be executed, its executions are runs. -/
theorem leads_of_foldlM {f : σ → ε → Option σ} (hf : ∀ s e t, f s e = some t → R s e t) {s t : σ}
    {es : List ε} (hrun : es.foldlM f s = some t) : Leads R s es t := by
  induction es using List.reverseRecOn generalizing t with
  | nil =>
    cases hrun
    exact .nil
  | append_singleton es e ih =>
    rw [List.foldlM_append] at hrun
    obtain ⟨u, hu, hstep⟩ := Option.bind_eq_some_iff.mp hrun
    obtain ⟨v, hv, hnil⟩ := Option.bind_eq_some_iff.mp hstep
    cases hnil
    exact (ih hu).snoc (hf u e _ hv)

/-- A fold stays within a reflexive and transitive relation that its steps are in. -/
theorem rel_foldl {r : σ → σ → Prop} (hrefl : ∀ s, r s s) (htrans : ∀ s t u, r s t → r t u → r s u)
    {f : σ → ε → σ} (hf : ∀ s e, r s (f s e)) (es : List ε) (s : σ) : r s (es.foldl f s) := by
  induction es generalizing s with
  | nil => exact hrefl s
  | cons e es ih => exact htrans _ _ _ (hf s e) (ih (f s e))

theorem Leads.reachable {s t : σ} {es : List ε} (h : Leads R s es t) : Reachable R s t := by
  induction h with
  | nil => exact .start
  | snoc _ hR ih => exact ih.step hR

theorem Along.head {s : σ} {es : List ε} (h : Along R P s es) : P s := by
  cases es with
  | nil => exact h
  | cons e es => exact h.1

theorem Along.mono {Q : σ → Prop} (hPQ : ∀ s, P s → Q s) {s : σ} {es : List ε}
    (h : Along R P s es) : Along R Q s es := by
  induction es generalizing s with
  | nil => exact hPQ s h
  | cons e es ih => exact ⟨hPQ s h.1, fun t ht => ih (h.2 t ht)⟩

/-- Where a machine can be executed, what holds along a run holds where its execution ends. -/
theorem Along.last {f : σ → ε → Option σ} (hf : ∀ s e t, f s e = some t → R s e t) {s t : σ}
    {es : List ε} (h : Along R P s es) (hrun : es.foldlM f s = some t) : P t := by
  induction es generalizing s with
  | nil =>
    cases hrun
    exact h
  | cons e es ih =>
    rw [List.foldlM_cons] at hrun
    obtain ⟨u, hu, hrun⟩ := Option.bind_eq_some_iff.mp hrun
    exact ih (h.2 u (hf s e u hu)) hrun

/-- An inductive invariant holds in every reachable state. -/
theorem Reachable.invariant {s t : σ} (h : Reachable R s t) (hs : I s)
    (hstep : ∀ t e u, I t → R t e u → I u) : I t := by
  induction h with
  | start => exact hs
  | step _ hR ih => exact hstep _ _ _ ih hR

/-- What every step keeps holds along every run. -/
theorem along_of_invariant (hstep : ∀ s e t, I s → R s e t → I t) {s : σ} (hs : I s)
    (es : List ε) : Along R I s es := by
  induction es generalizing s with
  | nil => exact hs
  | cons e es ih => exact ⟨hs, fun t ht => ih (hstep s e t hs ht)⟩

/-- The run rule: an invariant kept by the steps that meet `C` holds along every run of such
steps. -/
theorem Meets.along (hstep : ∀ s e t, I s → C s e → R s e t → I t) {s : σ} {es : List ε}
    (hs : I s) (h : Meets R C s es) : Along R I s es := by
  induction es generalizing s with
  | nil => exact hs
  | cons e es ih =>
    refine ⟨hs, fun t ht => ?_⟩
    obtain ⟨hC, hrest⟩ := h t ht
    exact ih (hstep s e t hs hC ht) hrest

/-- The converse: where a step out of an invariant state that keeps `P` must have met `C`, a run
along which `P` holds takes only steps that meet `C`. -/
theorem Along.meets (hstep : ∀ s e t, I s → C s e → R s e t → I t)
    (hback : ∀ s e t, I s → R s e t → P t → C s e) {s : σ} {es : List ε}
    (hs : I s) (h : Along R P s es) : Meets R C s es := by
  induction es generalizing s with
  | nil => trivial
  | cons e es ih =>
    intro t ht
    have hC := hback s e t hs ht (h.2 t ht).head
    exact ⟨hC, ih (hstep s e t hs hC ht) (h.2 t ht)⟩

/-- Both directions: `C` is then the exact condition under which `P` survives a run. -/
theorem along_iff_meets (hP : ∀ s, I s → P s)
    (hstep : ∀ s e t, I s → C s e → R s e t → I t)
    (hback : ∀ s e t, I s → R s e t → P t → C s e) {s : σ} {es : List ε} (hs : I s) :
    Along R P s es ↔ Meets R C s es :=
  ⟨fun h => h.meets hstep hback hs, fun h => (h.along hstep hs).mono hP⟩

end XrtcServer.Core
