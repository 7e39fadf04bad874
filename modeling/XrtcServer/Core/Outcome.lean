import Mathlib.Data.List.Basic

/-!
# Computations that fail in two ways

A computation of `Except` either faults, is refused, or returns a value. `Outcome` says exactly when
it does which: `faulty` is the condition under which it faults, and `refused` the one under which it
is refused where it does not fault. The rules compose such statements along binds and folds, where
the first failure decides.
-/

namespace XrtcServer.Core

universe u

variable {ε ι : Type*} {α β σ : Type u} {fault refusal : ε} {faulty refused faulty' refused' : Prop}
  {Q : α → Prop}

/-- The computation faults, is refused or returns a value with `Q`, precisely under the conditions
given. -/
inductive Outcome (fault refusal : ε) (faulty refused : Prop) (Q : α → Prop) : Except ε α → Prop
  | fault (h : faulty) : Outcome fault refusal faulty refused Q (.error fault)
  | refusal (h : ¬ faulty) (h' : refused) : Outcome fault refusal faulty refused Q (.error refusal)
  | ok {a : α} (h : ¬ faulty) (h' : ¬ refused) (ha : Q a) :
      Outcome fault refusal faulty refused Q (.ok a)

namespace Outcome
variable {x : Except ε α}

theorem pure {a : α} (ha : Q a) : Outcome fault refusal False False Q (.ok a : Except ε α) :=
  .ok not_false not_false ha

theorem congr (h : Outcome fault refusal faulty refused Q x) (hfaulty : faulty ↔ faulty')
    (hrefused : ¬ faulty → (refused ↔ refused')) : Outcome fault refusal faulty' refused' Q x := by
  cases h with
  | fault h => exact .fault (hfaulty.mp h)
  | refusal h h' => exact .refusal (hfaulty.not.mp h) ((hrefused h).mp h')
  | ok h h' ha => exact .ok (hfaulty.not.mp h) ((hrefused h).not.mp h') ha

theorem mono {Q' : α → Prop} (h : Outcome fault refusal faulty refused Q x)
    (hQ : ∀ a, Q a → Q' a) : Outcome fault refusal faulty refused Q' x := by
  cases h with
  | fault h => exact .fault h
  | refusal h h' => exact .refusal h h'
  | ok h h' ha => exact .ok h h' (hQ _ ha)

/-- One computation after another. -/
theorem bind {f : α → Except ε β} {Q' : β → Prop}
    (h : Outcome fault refusal faulty refused Q x)
    (hf : ∀ a, Q a → Outcome fault refusal faulty' refused' Q' (f a)) :
    Outcome fault refusal (faulty ∨ ¬ refused ∧ faulty') (refused ∨ refused') Q' (x >>= f) := by
  cases h with
  | fault h => exact .fault (Or.inl h)
  | refusal h h' => exact .refusal (fun hor => hor.elim h fun hand => hand.1 h') (Or.inl h')
  | @ok a h h' ha =>
    have hout := hf a ha
    change Outcome fault refusal _ _ Q' (f a)
    exact hout.congr (by simp [h, h']) fun _ => by simp [h']

theorem map {g : α → β} {Q' : β → Prop} (h : Outcome fault refusal faulty refused Q x)
    (hg : ∀ a, x = .ok a → Q a → Q' (g a)) : Outcome fault refusal faulty refused Q' (x.map g) := by
  cases h with
  | fault h => exact .fault h
  | refusal h h' => exact .refusal h h'
  | ok h h' ha => exact .ok h h' (hg _ rfl ha)

/-- Two computations are the same where they fail under the same conditions and lead to the same
value where they do not. -/
theorem eq_iff {y : Except ε α} {P : Prop} (hne : fault ≠ refusal)
    {Q' : α → Prop} (hx : Outcome fault refusal faulty refused Q x)
    (hy : Outcome fault refusal faulty' refused' Q' y)
    (hvalues : ∀ a b, Q a → Q' b → (a = b ↔ P)) :
    x = y ↔ (faulty ↔ faulty') ∧ (¬ faulty' → (refused ↔ refused')) ∧
      (¬ faulty' → ¬ refused' → P) := by
  cases hx with
  | fault hf =>
    cases hy with
    | fault hf' => simp [hf, hf']
    | refusal hf' hr' => simp [hf, hf', hne]
    | ok hf' hr' hb => simp [hf, hf']
  | refusal hf hr =>
    cases hy with
    | fault hf' => simp [hf, hf', hne.symm]
    | refusal hf' hr' => simp [hf, hf', hr, hr']
    | ok hf' hr' hb => simp [hf', hr, hr']
  | ok hf hr ha =>
    cases hy with
    | fault hf' => simp [hf, hf']
    | refusal hf' hr' => simp [hf', hr, hr']
    | ok hf' hr' hb => simp [hf, hf', hr, hr', hvalues _ _ ha hb]

end Outcome

/-- Some item of a list is faulty and none before it is refused. -/
def FirstFault (faulty refused : ι → Prop) (l : List ι) : Prop :=
  ∃ pre i post, l = pre ++ i :: post ∧ (∀ j ∈ pre, ¬ refused j) ∧ faulty i

lemma not_firstFault_nil {faulty refused : ι → Prop} : ¬ FirstFault faulty refused [] := by
  rintro ⟨pre, i, post, heq, -⟩
  cases pre <;> cases heq

lemma firstFault_cons {faulty refused : ι → Prop} {i : ι} {l : List ι} :
    FirstFault faulty refused (i :: l) ↔ faulty i ∨ ¬ refused i ∧ FirstFault faulty refused l := by
  constructor
  · rintro ⟨pre, j, post, heq, hpre, hj⟩
    rcases pre with - | ⟨k, pre⟩
    · cases heq
      exact Or.inl hj
    · cases heq
      exact Or.inr ⟨hpre _ List.mem_cons_self, pre, j, post, rfl,
        fun m hm => hpre m (List.mem_cons_of_mem _ hm), hj⟩
  · rintro (hi | ⟨hi, pre, j, post, rfl, hpre, hj⟩)
    · exact ⟨[], i, l, rfl, fun j hj => (by cases hj), hi⟩
    · refine ⟨i :: pre, j, post, rfl, fun m hm => ?_, hj⟩
      rcases List.mem_cons.mp hm with rfl | hm
      · exact hi
      · exact hpre m hm

/-- The rule for a fold: `J pre s` relates the items that were read to the state that they led
to. -/
theorem Outcome.foldlM {f : σ → ι → Except ε σ} {faulty refused : ι → Prop} {J : List ι → σ → Prop}
    (l pre : List ι) (s : σ)
    (hstep : ∀ before i after s, pre ++ l = before ++ i :: after → J before s →
      Outcome fault refusal (faulty i) (refused i) (J (before ++ [i])) (f s i))
    (hs : J pre s) :
    Outcome fault refusal (FirstFault faulty refused l) (∃ i ∈ l, refused i) (J (pre ++ l))
      (l.foldlM f s) := by
  induction l generalizing pre s with
  | nil =>
    exact .ok not_firstFault_nil (by simp) ((List.append_nil pre).symm ▸ hs)
  | cons i l ih =>
    rw [List.foldlM_cons]
    have hfirst := hstep pre i l s rfl hs
    have hrest : ∀ t, J (pre ++ [i]) t → Outcome fault refusal (FirstFault faulty refused l)
        (∃ j ∈ l, refused j) (J (pre ++ i :: l)) (l.foldlM f t) := by
      intro t ht
      have hrun := ih (pre ++ [i]) t (fun before j after s heq => hstep before j after s
        ((List.append_assoc pre [i] l).symm.trans heq)) ht
      rwa [List.append_assoc] at hrun
    refine (hfirst.bind hrest).congr firstFault_cons.symm fun _ => ?_
    simp only [List.mem_cons, or_and_right, exists_or, exists_eq_left]

lemma firstFault_of_never {faulty : ι → Prop} {l : List ι} :
    FirstFault faulty (fun _ => False) l ↔ ∃ i ∈ l, faulty i := by
  constructor
  · rintro ⟨pre, i, post, rfl, -, hi⟩
    exact ⟨i, List.mem_append_right _ List.mem_cons_self, hi⟩
  · rintro ⟨i, hmem, hi⟩
    obtain ⟨pre, post, rfl⟩ := List.append_of_mem hmem
    exact ⟨pre, i, post, rfl, fun _ _ => not_false, hi⟩

/-- The rule for a loop that computes nothing. -/
theorem Outcome.forM {f : ι → Except ε PUnit} {faulty refused : ι → Prop} (l : List ι)
    (hf : ∀ i ∈ l, Outcome fault refusal (faulty i) (refused i) (fun _ => True) (f i)) :
    Outcome fault refusal (FirstFault faulty refused l) (∃ i ∈ l, refused i) (fun _ => True)
      (l.forM f) := by
  induction l with
  | nil =>
    exact .ok not_firstFault_nil (by simp) trivial
  | cons i l ih =>
    have hrest := ih fun j hj => hf j (List.mem_cons_of_mem i hj)
    refine ((hf i List.mem_cons_self).bind fun _ _ => hrest).congr firstFault_cons.symm fun _ => ?_
    simp only [List.mem_cons, or_and_right, exists_or, exists_eq_left]

end XrtcServer.Core
