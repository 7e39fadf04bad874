import Mathlib.Order.Basic

/-!
# Loops that may not end

A loop is a body that either goes on in another state or leaves with a result. It is run with fuel,
and what it does without a bound is what it does with enough of it.
-/

namespace XrtcServer.Core

variable {σ ρ : Type*} {body : σ → σ ⊕ ρ} {s t : σ} {r r' : ρ} {I : σ → Prop}

/-- At most `fuel` iterations of a loop; `none` where that many do not suffice. -/
def runLoop (body : σ → σ ⊕ ρ) : Nat → σ → Option ρ
  | 0, _ => none
  | fuel + 1, s =>
    match body s with
    | .inl t => runLoop body fuel t
    | .inr r => some r

/-- The loop leaves with the result `r`. -/
def Yields (body : σ → σ ⊕ ρ) (s : σ) (r : ρ) : Prop := ∃ fuel, runLoop body fuel s = some r

/-- The loop leaves. -/
def Leaves (body : σ → σ ⊕ ρ) (s : σ) : Prop := ∃ r, Yields body s r

lemma runLoop_mono {fuel fuel' : Nat} (hle : fuel ≤ fuel') (h : runLoop body fuel s = some r) :
    runLoop body fuel' s = some r := by
  induction fuel generalizing s fuel' with
  | zero => cases h
  | succ fuel ih =>
    obtain ⟨fuel', rfl⟩ : ∃ n, fuel' = n + 1 := ⟨fuel' - 1, by omega⟩
    rw [runLoop] at h ⊢
    cases hb : body s with
    | inl t =>
      rw [hb] at h
      exact ih (by omega) h
    | inr r' =>
      rw [hb] at h
      exact h

theorem Yields.unique (h : Yields body s r) (h' : Yields body s r') : r = r' := by
  obtain ⟨n, hn⟩ := h
  obtain ⟨m, hm⟩ := h'
  have hn' := runLoop_mono (Nat.le_max_left n m) hn
  have hm' := runLoop_mono (Nat.le_max_right n m) hm
  exact Option.some.inj (hn'.symm.trans hm')

/-- The loop rule where the body goes on. -/
theorem yields_iff_of_again (h : body s = .inl t) : Yields body s r ↔ Yields body t r := by
  constructor
  · rintro ⟨fuel, hf⟩
    cases fuel with
    | zero => cases hf
    | succ fuel =>
      rw [runLoop, h] at hf
      exact ⟨fuel, hf⟩
  · rintro ⟨fuel, hf⟩
    refine ⟨fuel + 1, ?_⟩
    rw [runLoop, h]
    exact hf

/-- The loop rule where the body leaves. -/
theorem yields_iff_of_exit (h : body s = .inr r') : Yields body s r ↔ r = r' := by
  constructor
  · rintro ⟨fuel, hf⟩
    cases fuel with
    | zero => cases hf
    | succ fuel =>
      rw [runLoop, h] at hf
      exact (Option.some.inj hf).symm
  · rintro rfl
    refine ⟨1, ?_⟩
    rw [runLoop, h]

/-- The invariant rule: what every iteration keeps, and every exit turns into `Q`, holds of the
result. -/
theorem Yields.invariant {Q : ρ → Prop} (hnext : ∀ s t, I s → body s = .inl t → I t)
    (hexit : ∀ s r, I s → body s = .inr r → Q r) (hs : I s) (h : Yields body s r) : Q r := by
  obtain ⟨fuel, hf⟩ := h
  induction fuel generalizing s with
  | zero => cases hf
  | succ fuel ih =>
    rw [runLoop] at hf
    cases hb : body s with
    | inl t =>
      rw [hb] at hf
      exact ih (hnext s t hs hb) hf
    | inr r' =>
      rw [hb] at hf
      cases hf
      exact hexit s _ hs hb

/-- The loop comes to the state `t`. -/
inductive Visits (body : σ → σ ⊕ ρ) (s : σ) : σ → Prop
  | start : Visits body s s
  | next {t u : σ} (h : Visits body s t) (hnext : body t = .inl u) : Visits body s u

/-- What every iteration keeps holds wherever the loop comes to. -/
theorem Visits.invariant (hnext : ∀ t u, I t → body t = .inl u → I u) (hs : I s)
    (h : Visits body s t) : I t := by
  induction h with
  | start => exact hs
  | next _ hbody ih => exact hnext _ _ ih hbody

/-- A loop leaves where every iteration that it comes to makes a measure smaller. -/
theorem leaves_of_measure (m : σ → Nat)
    (h : ∀ t u, Visits body s t → body t = .inl u → m u < m t) : Leaves body s := by
  have hfrom : ∀ n t, m t < n → Visits body s t → Leaves body t := by
    intro n
    induction n with
    | zero => exact fun t hm _ => absurd hm (Nat.not_lt_zero _)
    | succ n ih =>
      intro t hm ht
      cases hb : body t with
      | inr r => exact ⟨r, (yields_iff_of_exit hb).mpr rfl⟩
      | inl u =>
        have hless := h t u ht hb
        obtain ⟨r, hr⟩ := ih u (by omega) (ht.next hb)
        exact ⟨r, (yields_iff_of_again hb).mpr hr⟩
  exact hfrom (m s + 1) s (by omega) .start

end XrtcServer.Core
