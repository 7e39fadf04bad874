import Mathlib.Logic.Function.Basic

/-!
# Heaps

A heap takes an address to the object there, and to `none` where there is no object. It is written
with `Function.update`; the lemmas say what is found at an address afterwards.
-/

namespace XrtcServer.Core

variable {κ α : Type*} [DecidableEq κ] {heap : κ → Option α} {p q : κ} {a b : α}

lemma update_some_eq_some (h : Function.update heap p (some a) q = some b) :
    q = p ∧ b = a ∨ q ≠ p ∧ heap q = some b := by
  by_cases hq : q = p
  · rw [hq, Function.update_self] at h
    exact Or.inl ⟨hq, (Option.some.inj h).symm⟩
  · rw [Function.update_of_ne hq] at h
    exact Or.inr ⟨hq, h⟩

lemma update_none_eq_some (h : Function.update heap p none q = some b) :
    q ≠ p ∧ heap q = some b := by
  by_cases hq : q = p
  · rw [hq, Function.update_self] at h
    cases h
  · rw [Function.update_of_ne hq] at h
    exact ⟨hq, h⟩

/-- A write to an object creates none. -/
lemma isSome_update_some (hp : (heap p).isSome = true) (a : α) (q : κ) :
    (Function.update heap p (some a) q).isSome = (heap q).isSome := by
  by_cases hq : q = p
  · rw [hq, Function.update_self, hp, Option.isSome_some]
  · rw [Function.update_of_ne hq]

lemma isSome_update_of_isSome (h : (heap q).isSome = true) (p : κ) (a : α) :
    (Function.update heap p (some a) q).isSome = true := by
  by_cases hq : q = p
  · rw [hq, Function.update_self, Option.isSome_some]
  · rwa [Function.update_of_ne hq]

lemma isSome_update_none :
    (Function.update heap p none q).isSome = true ↔ q ≠ p ∧ (heap q).isSome = true := by
  by_cases hq : q = p
  · rw [hq, Function.update_self]
    simp
  · rw [Function.update_of_ne hq]
    simp [hq]

end XrtcServer.Core
