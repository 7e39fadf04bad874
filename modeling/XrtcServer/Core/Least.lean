import Mathlib.Order.Lattice

/-!
# The least of a list by a loop

A loop over a list keeps the best element so far and replaces it where a later one has a smaller
key.
-/

namespace XrtcServer.Core

variable {α β : Type*} [LinearOrder β] {f : α → Bool} {key : α → β} {l : List α} {a b : α}

/-- The first element of those that satisfy `f` with the least key, or `found` if no key is less. -/
def leastBy (f : α → Bool) (key : α → β) (l : List α) (found : Option α) : Option α :=
  l.foldl (fun found a => if f a && found.all (fun b => key a < key b) then some a else found) found

lemma leastBy_eq_some (h : leastBy f key l (some b) = some a) :
    (a = b ∨ a ∈ l ∧ f a = true) ∧ key a ≤ key b ∧ ∀ c ∈ l, f c = true → key a ≤ key c := by
  induction l generalizing b with
  | nil =>
    cases h
    exact ⟨.inl rfl, le_refl _, fun c hc => absurd hc List.not_mem_nil⟩
  | cons x l ih =>
    rw [leastBy, List.foldl_cons, ← leastBy] at h
    split_ifs at h with hx
    · rw [Bool.and_eq_true, Option.all_some, decide_eq_true_eq] at hx
      obtain ⟨hmem, hle, hall⟩ := ih h
      refine ⟨.inr ?_, hle.trans hx.2.le, List.forall_mem_cons.mpr ⟨fun _ => hle, hall⟩⟩
      rcases hmem with rfl | ⟨hmem, hf⟩
      · exact ⟨List.mem_cons_self, hx.1⟩
      · exact ⟨List.mem_cons_of_mem _ hmem, hf⟩
    · obtain ⟨hmem, hle, hall⟩ := ih h
      refine ⟨hmem.imp_right fun hmem => ⟨List.mem_cons_of_mem _ hmem.1, hmem.2⟩, hle,
        List.forall_mem_cons.mpr ⟨fun hf => ?_, hall⟩⟩
      rw [Bool.and_eq_true, Option.all_some, decide_eq_true_eq, not_and, not_lt] at hx
      exact hle.trans (hx hf)

lemma exists_leastBy_some (f : α → Bool) (key : α → β) (l : List α) (b : α) :
    ∃ a, leastBy f key l (some b) = some a := by
  induction l generalizing b with
  | nil => exact ⟨b, rfl⟩
  | cons x l ih =>
    rw [leastBy, List.foldl_cons, ← leastBy]
    split
    · exact ih x
    · exact ih b

/-- Either no element satisfies `f`, or the result does and has the least key of those. -/
theorem leastBy_spec (f : α → Bool) (key : α → β) (l : List α) :
    leastBy f key l none = none ∧ (∀ a ∈ l, f a = false) ∨
      ∃ a ∈ l, leastBy f key l none = some a ∧ f a = true ∧
        ∀ c ∈ l, f c = true → key a ≤ key c := by
  induction l with
  | nil => exact .inl ⟨rfl, fun a ha => absurd ha List.not_mem_nil⟩
  | cons x l ih =>
    rw [leastBy, List.foldl_cons, ← leastBy, Option.all_none, Bool.and_true]
    cases hx : f x with
    | true =>
      obtain ⟨a, ha⟩ := exists_leastBy_some f key l x
      obtain ⟨hmem, hle, hall⟩ := leastBy_eq_some ha
      refine .inr ⟨a, ?_, by rw [if_pos rfl, ha], ?_, List.forall_mem_cons.mpr ⟨fun _ => hle, hall⟩⟩
      · exact List.mem_cons.mpr (hmem.imp_right And.left)
      · rcases hmem with rfl | ⟨-, hf⟩
        · exact hx
        · exact hf
    | false =>
      rw [if_neg Bool.false_ne_true]
      rcases ih with ⟨hnone, hall⟩ | ⟨a, hmem, ha, hf, hall⟩
      · exact .inl ⟨hnone, List.forall_mem_cons.mpr ⟨hx, hall⟩⟩
      · refine .inr ⟨a, List.mem_cons_of_mem _ hmem, ha, hf, List.forall_mem_cons.mpr ⟨?_, hall⟩⟩
        intro htrue
        rw [hx] at htrue
        cases htrue

end XrtcServer.Core
