import Mathlib.Data.List.Basic

/-!
# Reading a whole input

`readWhole step` repeats a reader until nothing is left. A reader returns an item or skips, and
what remains; it must consume something each time, so the length of the input bounds the
repetitions.
-/

namespace XrtcServer.Core

variable {α β : Type*} {step : List α → Option (Option β × List α)} {l rest : List α}

/-- At most `n` repetitions of `step`; `none` where one of them fails. -/
def readAll (step : List α → Option (Option β × List α)) : Nat → List α → Option (List β)
  | _, [] => some []
  | 0, _ :: _ => none
  | n + 1, a :: l =>
    (step (a :: l)).bind fun (x, rest) => (readAll step n rest).map (x.toList ++ ·)

def readWhole (step : List α → Option (Option β × List α)) (l : List α) : Option (List β) :=
  readAll step l.length l

/-- Every successful read consumes something. -/
def Consumes (step : List α → Option (Option β × List α)) : Prop :=
  ∀ l x rest, step l = some (x, rest) → rest.length < l.length

lemma readAll_congr (hstep : Consumes step) {n m : Nat} (hn : l.length ≤ n) (hm : l.length ≤ m) :
    readAll step n l = readAll step m l := by
  induction n generalizing l m with
  | zero =>
    have hl : l = [] := by simpa using hn
    subst hl
    cases m <;> rfl
  | succ n ih =>
    cases l with
    | nil => cases m <;> rfl
    | cons a l =>
      cases m with
      | zero => simp at hm
      | succ m =>
        rw [readAll, readAll]
        cases hs : step (a :: l) with
        | none => rfl
        | some r =>
          obtain ⟨x, rest⟩ := r
          have hrest := hstep _ _ _ hs
          simp only [List.length_cons] at hn hm hrest
          simp only [Option.bind_some]
          rw [ih (m := m) (by omega) (by omega)]

@[simp] lemma readWhole_nil : readWhole step [] = some [] := rfl

/-- One repetition. -/
theorem readWhole_of_step (hstep : Consumes step) {x : Option β} (h : step l = some (x, rest))
    (hl : l ≠ []) : readWhole step l = (readWhole step rest).map (x.toList ++ ·) := by
  cases l with
  | nil => exact absurd rfl hl
  | cons a l =>
    have hrest : rest.length ≤ l.length := Nat.le_of_lt_succ (hstep _ _ _ h)
    rw [readWhole, List.length_cons, readAll, h]
    simp only [Option.bind_some]
    rw [readWhole, readAll_congr hstep hrest (Nat.le_refl _)]

lemma exists_step_of_readWhole (hstep : Consumes step) {xs : List β}
    (h : readWhole step l = some xs) (hl : l ≠ []) :
    ∃ x rest ys, step l = some (x, rest) ∧ readWhole step rest = some ys ∧
      xs = x.toList ++ ys := by
  cases l with
  | nil => exact absurd rfl hl
  | cons a l =>
    cases hs : step (a :: l) with
    | none => simp [readWhole, readAll, hs] at h
    | some r =>
      obtain ⟨x, rest⟩ := r
      rw [readWhole_of_step hstep hs hl] at h
      obtain ⟨ys, hys, rfl⟩ := Option.map_eq_some_iff.mp h
      exact ⟨x, rest, ys, rfl, hys, rfl⟩

lemma forall_of_readWhole {P : β → Prop} (hstep : Consumes step)
    (hP : ∀ l x rest, step l = some (some x, rest) → P x) {xs : List β}
    (h : readWhole step l = some xs) : ∀ x ∈ xs, P x := by
  induction hn : l.length using Nat.strongRecOn generalizing l xs with
  | _ n ih =>
    by_cases hl : l = []
    · subst hl
      cases h
      simp
    · obtain ⟨x, rest, ys, hx, hys, rfl⟩ := exists_step_of_readWhole hstep h hl
      intro y hy
      rcases List.mem_append.mp hy with hy | hy
      · have hxy : x = some y := Option.mem_toList.mp hy
        exact hP _ _ _ (hxy ▸ hx)
      · exact ih rest.length (hn ▸ hstep _ _ _ hx) hys rfl y hy

end XrtcServer.Core
