import XrtcServer.Core.Run
import Mathlib.Data.List.Basic

/-!
# Runs in which one waits for another

A machine keeps a log to which a step adds at most one entry. Between two entries `a` of a run there
is an entry `b` where a predicate `B` on states holds after every `a`, lasts until the next `b`, and
rules out a further `a`.
-/

namespace XrtcServer.Core

variable {σ ε α : Type*} {R : σ → ε → σ → Prop} {I B : σ → Prop} {log : σ → List α}
  {a b p : α} {l u v : List α}

/-- Between two `a` of the list there is a `b`. -/
def Separated (a b : α) (l : List α) : Prop :=
  ∀ u v w, l = u ++ a :: v ++ a :: w → b ∈ v

/-- An `a` of the list is not followed by a `b`. -/
def Awaits (a b : α) (l : List α) : Prop :=
  ∃ u v, l = u ++ a :: v ∧ b ∉ v

/-- What a step adds to the log, and what becomes of `B`. -/
inductive Turn (log : σ → List α) (B : σ → Prop) (a b : α) (s t : σ) : Prop
  | quiet (hlog : log t = log s) (hkeep : B s → B t)
  | own (hlog : log t = log s ++ [a]) (hfree : ¬ B s) (hwait : B t)
  | other (p : α) (hlog : log t = log s ++ [p]) (hne : p ≠ a) (hkeep : p ≠ b → B s → B t)

lemma snoc_eq_append_cons (h : l ++ [p] = u ++ a :: v) :
    (p = a ∧ l = u) ∨ ∃ w, v = w ++ [p] ∧ l = u ++ a :: w := by
  rcases List.eq_nil_or_concat' v with rfl | ⟨w, q, rfl⟩
  · obtain ⟨hl, hp⟩ := List.append_inj' h rfl
    exact .inl ⟨List.singleton_inj.mp hp, hl⟩
  · have hsplit : l ++ [p] = (u ++ a :: w) ++ [q] := by
      rw [h, List.append_assoc, List.cons_append]
    obtain ⟨hl, hp⟩ := List.append_inj' hsplit rfl
    exact .inr ⟨w, by rw [List.singleton_inj.mp hp], hl⟩

lemma separated_nil (a b : α) : Separated a b [] := by
  intro u v w h
  simp at h

lemma Separated.snoc (h : Separated a b l) (hnot : p = a → ¬ Awaits a b l) :
    Separated a b (l ++ [p]) := by
  intro u v w heq
  rcases snoc_eq_append_cons heq with ⟨hp, hl⟩ | ⟨w', -, hl⟩
  · by_contra hb
    exact hnot hp ⟨u, v, hl, hb⟩
  · exact h u v w' hl

lemma not_awaits_nil : ¬ Awaits a b [] := by
  rintro ⟨u, v, h, -⟩
  simp at h

lemma Awaits.of_snoc (h : Awaits a b (l ++ [p])) (hp : p ≠ a) : p ≠ b ∧ Awaits a b l := by
  obtain ⟨u, v, heq, hb⟩ := h
  rcases snoc_eq_append_cons heq with ⟨hpa, -⟩ | ⟨w, rfl, hl⟩
  · exact absurd hpa hp
  · rw [List.mem_append, List.mem_singleton, not_or] at hb
    exact ⟨Ne.symm hb.2, u, w, hl, hb.1⟩

/-- The rule of turns. -/
theorem Leads.separated {s t : σ} {es : List ε} (h : Leads R s es t) (hs : I s)
    (hkeep : ∀ s e t, I s → R s e t → I t)
    (hturn : ∀ s e t, I s → R s e t → Turn log B a b s t) :
    ∃ l, log t = log s ++ l ∧ Separated a b l := by
  suffices I t ∧ ∃ l, log t = log s ++ l ∧ Separated a b l ∧ (Awaits a b l → B t) by
    obtain ⟨-, l, hlog, hsep, -⟩ := this
    exact ⟨l, hlog, hsep⟩
  refine h.invariant
    (J := fun _ t => I t ∧ ∃ l, log t = log s ++ l ∧ Separated a b l ∧ (Awaits a b l → B t))
    ⟨hs, [], (List.append_nil _).symm, separated_nil a b, fun h => absurd h not_awaits_nil⟩ ?_
  rintro - t e u ⟨hI, l, hlog, hsep, hB⟩ hR
  refine ⟨hkeep t e u hI hR, ?_⟩
  cases hturn t e u hI hR with
  | quiet hsame hkeep => exact ⟨l, hsame.trans hlog, hsep, hkeep ∘ hB⟩
  | own hadd hfree hwait =>
    refine ⟨l ++ [a], by rw [hadd, hlog, List.append_assoc], ?_, fun _ => hwait⟩
    exact hsep.snoc fun _ hawaits => hfree (hB hawaits)
  | other p hadd hne hkeep =>
    refine ⟨l ++ [p], by rw [hadd, hlog, List.append_assoc], ?_, fun hawaits => ?_⟩
    · exact hsep.snoc fun hp => absurd hp hne
    · obtain ⟨hpb, hawaits⟩ := hawaits.of_snoc hne
      exact hkeep hpb (hB hawaits)

end XrtcServer.Core
