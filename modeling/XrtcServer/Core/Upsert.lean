import Mathlib.Data.List.Induction
import Mathlib.Data.List.Nodup
import Mathlib.Data.List.Perm.Basic

/-!
# Search or append

A list in which the first element with a key is edited, or a new one appended where there is none.
Along a list of items this groups them by their keys, in the order in which the keys come first.
-/

namespace XrtcServer.Core

variable {α β κ : Type*} [DecidableEq κ] {key : α → κ} {k : κ} {f : α → α} {new : α} {l : List α}

/-- Edits the first element with the key `k`; where there is none, appends and edits `new`. -/
def upsert (key : α → κ) (k : κ) (new : α) (f : α → α) : List α → List α
  | [] => [f new]
  | a :: l => if key a = k then f a :: l else a :: upsert key k new f l

lemma map_key_upsert_of_mem (hf : ∀ a, key (f a) = key a) (h : k ∈ l.map key) :
    (upsert key k new f l).map key = l.map key := by
  induction l with
  | nil => cases h
  | cons a l ih =>
    rw [upsert]
    by_cases ha : key a = k
    · rw [if_pos ha, List.map_cons, List.map_cons, hf]
    · rw [List.map_cons, List.mem_cons] at h
      rw [if_neg ha, List.map_cons, List.map_cons, ih (h.resolve_left (Ne.symm ha))]

lemma upsert_of_notMem (h : k ∉ l.map key) : upsert key k new f l = l ++ [f new] := by
  induction l with
  | nil => rfl
  | cons a l ih =>
    rw [List.map_cons, List.mem_cons, not_or] at h
    rw [upsert, if_neg (Ne.symm h.1), ih h.2, List.cons_append]

lemma upsert_append_of_notMem (h : k ∉ l.map key) (l' : List α) :
    upsert key k new f (l ++ l') = l ++ upsert key k new f l' := by
  induction l with
  | nil => rfl
  | cons a l ih =>
    rw [List.map_cons, List.mem_cons, not_or] at h
    rw [List.cons_append, upsert, if_neg (Ne.symm h.1), ih h.2, List.cons_append]

lemma map_key_upsert (hf : ∀ a, key (f a) = key a) (hnew : key new = k) :
    (upsert key k new f l).map key = if k ∈ l.map key then l.map key else l.map key ++ [k] := by
  by_cases h : k ∈ l.map key
  · rw [if_pos h, map_key_upsert_of_mem hf h]
  · rw [if_neg h, upsert_of_notMem h, List.map_append, List.map_singleton, hf, hnew]

/-- Keys stay pairwise distinct. -/
theorem nodup_upsert (hf : ∀ a, key (f a) = key a) (hnew : key new = k)
    (h : (l.map key).Nodup) : ((upsert key k new f l).map key).Nodup := by
  rw [map_key_upsert hf hnew]
  split
  · exact h
  · rename_i hk
    exact List.nodup_append.mpr ⟨h, List.nodup_singleton k, fun a ha b hb heq =>
      hk (List.mem_singleton.mp hb ▸ heq ▸ ha)⟩

lemma mem_map_key_upsert (hf : ∀ a, key (f a) = key a) (hnew : key new = k) (j : κ) :
    j ∈ (upsert key k new f l).map key ↔ j = k ∨ j ∈ l.map key := by
  rw [map_key_upsert hf hnew]
  split
  · rename_i hk
    exact ⟨Or.inr, fun h => h.elim (fun heq => heq ▸ hk) id⟩
  · rw [List.mem_append, List.mem_singleton, or_comm]

/-- Two edits with one key are one edit. -/
lemma upsert_upsert {g : α → α} {new' : α} (hf : ∀ a, key (f a) = key a) (hnew : key new = k) :
    upsert key k new' g (upsert key k new f l) = upsert key k new (g ∘ f) l := by
  induction l with
  | nil => simp only [upsert, hf, hnew, if_true, Function.comp_apply]
  | cons a l ih =>
    by_cases ha : key a = k
    · rw [upsert, if_pos ha, upsert, hf, if_pos ha, upsert, if_pos ha, Function.comp_apply]
    · rw [upsert, if_neg ha, upsert, if_neg ha, ih, upsert, if_neg ha]

/-- An edit that changes nothing where it finds the key. -/
lemma upsert_of_mem (hk : k ∈ l.map key) (hf : ∀ a ∈ l, key a = k → f a = a) :
    upsert key k new f l = l := by
  induction l with
  | nil => cases hk
  | cons a l ih =>
    rw [List.forall_mem_cons] at hf
    rw [upsert]
    by_cases ha : key a = k
    · rw [if_pos ha, hf.1 ha]
    · rw [List.map_cons, List.mem_cons] at hk
      rw [if_neg ha, ih (hk.resolve_left (Ne.symm ha)) hf.2]

lemma forall_mem_upsert {P : α → Prop} (hl : ∀ a ∈ l, P a) (hf : ∀ a, P a → P (f a))
    (hnew : P (f new)) : ∀ a ∈ upsert key k new f l, P a := by
  induction l with
  | nil => exact List.forall_mem_singleton.mpr hnew
  | cons a l ih =>
    rw [List.forall_mem_cons] at hl
    rw [upsert]
    split
    · exact List.forall_mem_cons.mpr ⟨hf a hl.1, hl.2⟩
    · exact List.forall_mem_cons.mpr ⟨hl.1, ih hl.2⟩

/-- What the elements hold together: the edit adds `b` to one of them. -/
theorem flatMap_upsert_perm {g : α → List β} {b : β} (hnew : g new = [])
    (hf : ∀ a, g (f a) = g a ++ [b]) :
    ((upsert key k new f l).flatMap g).Perm (b :: l.flatMap g) := by
  induction l with
  | nil => simp [upsert, hf, hnew]
  | cons a l ih =>
    rw [upsert]
    split
    · rw [List.flatMap_cons, List.flatMap_cons, hf, List.append_assoc, List.singleton_append]
      exact List.perm_middle
    · rw [List.flatMap_cons, List.flatMap_cons]
      exact (ih.append_left (g a)).trans List.perm_middle

/-! ## Grouping -/

/-- The elements of a list, each where it comes first. -/
def firsts (l : List κ) : List κ := l.foldl (fun acc k => if k ∈ acc then acc else acc ++ [k]) []

lemma firsts_concat (l : List κ) (k : κ) :
    firsts (l ++ [k]) = if k ∈ firsts l then firsts l else firsts l ++ [k] := by
  rw [firsts, List.foldl_append]
  rfl

@[simp] lemma mem_firsts {l : List κ} {k : κ} : k ∈ firsts l ↔ k ∈ l := by
  induction l using List.reverseRecOn with
  | nil => exact Iff.rfl
  | append_singleton l j ih =>
    rw [firsts_concat, List.mem_append, List.mem_singleton]
    split
    · rename_i hj
      refine ih.trans ⟨Or.inl, fun h => h.elim id ?_⟩
      rintro rfl
      exact ih.mp hj
    · rw [List.mem_append, List.mem_singleton, ih]

lemma nodup_firsts (l : List κ) : (firsts l).Nodup := by
  induction l using List.reverseRecOn with
  | nil => exact List.nodup_nil
  | append_singleton l j ih =>
    rw [firsts_concat]
    split
    · exact ih
    · rename_i hj
      exact List.nodup_append.mpr ⟨ih, List.nodup_singleton j, fun a ha b hb heq =>
        hj (List.mem_singleton.mp hb ▸ heq ▸ ha)⟩

/-- An edit of the element with the key `k`, in a list given by its keys. -/
lemma upsert_map {ks : List κ} (hks : ks.Nodup) {a : κ → α} (ha : ∀ j, key (a j) = j) :
    upsert key k new f (ks.map a) =
      if k ∈ ks then ks.map fun j => if j = k then f (a j) else a j else ks.map a ++ [f new] := by
  induction ks with
  | nil => rfl
  | cons j ks ih =>
    obtain ⟨hj, hks⟩ := List.nodup_cons.mp hks
    rw [List.map_cons, upsert, ha]
    by_cases hjk : j = k
    · subst hjk
      rw [if_pos rfl, if_pos List.mem_cons_self, List.map_cons, if_pos rfl]
      refine congrArg (f (a j) :: ·) (List.map_congr_left fun i hi => ?_)
      have hij : i ≠ j := fun h => hj (h ▸ hi)
      rw [if_neg hij]
    · have hmem : k ∈ j :: ks ↔ k ∈ ks := by simp [Ne.symm hjk]
      simp only [hmem, if_neg hjk, ih hks, List.map_cons]
      split <;> rfl

/-- Items that are put in one by one, each into the element with its key. -/
theorem foldl_upsert {g : β → κ} {init : κ → α} {edit : β → α → α}
    (hinit : ∀ k, key (init k) = k) (hedit : ∀ b a, key (edit b a) = key a) (items : List β) :
    items.foldl (fun l b => upsert key (g b) (init (g b)) (edit b) l) [] =
      (firsts (items.map g)).map fun k =>
        (items.filter (g · = k)).foldl (fun a b => edit b a) (init k) := by
  induction items using List.reverseRecOn with
  | nil => rfl
  | append_singleton items b ih =>
    have hkey : ∀ k, key ((items.filter (g · = k)).foldl (fun a b => edit b a) (init k)) = k := by
      intro k
      refine List.foldlRecOn (motive := fun a => key a = k) _ _ (hinit k) fun a ha b _ => ?_
      rw [hedit, ha]
    rw [List.foldl_append, List.foldl_cons, List.foldl_nil, ih, List.map_append, List.map_singleton,
      firsts_concat, upsert_map (nodup_firsts _) hkey]
    split
    · refine List.map_congr_left fun k hk => ?_
      by_cases hkb : k = g b
      · rw [if_pos hkb, List.filter_append, List.filter_singleton, decide_eq_true hkb.symm,
          cond_true, List.foldl_append]
        rfl
      · rw [if_neg hkb, List.filter_append, List.filter_singleton,
          decide_eq_false (Ne.symm hkb), cond_false, List.append_nil]
    · rename_i hnew
      rw [List.map_append, List.map_singleton]
      refine congrArg₂ (· ++ ·) (List.map_congr_left fun k hk => ?_) ?_
      · have hkb : g b ≠ k := fun h => hnew (h ▸ hk)
        rw [List.filter_append, List.filter_singleton, decide_eq_false hkb, cond_false,
          List.append_nil]
      · have hnone : items.filter (g · = g b) = [] := by
          refine List.filter_eq_nil_iff.mpr fun a ha hab => hnew (mem_firsts.mpr ?_)
          exact List.mem_map.mpr ⟨a, ha, of_decide_eq_true hab⟩
        rw [List.filter_append, List.filter_singleton, hnone, decide_eq_true rfl, cond_true]
        rfl

omit [DecidableEq κ] in
/-- Lists that are given by their keys are the same where the keys and what they have are. -/
lemma map_eq_map_iff_of_key {ks ks' : List κ} {a a' : κ → α} (ha : ∀ k, key (a k) = k)
    (ha' : ∀ k, key (a' k) = k) :
    ks.map a = ks'.map a' ↔ ks = ks' ∧ ∀ k ∈ ks, a k = a' k := by
  constructor
  · intro h
    have hks : ks = ks' := by
      have hkeys := congrArg (List.map key) h
      rwa [List.map_map, List.map_map, show key ∘ a = id from funext ha,
        show key ∘ a' = id from funext ha', List.map_id, List.map_id] at hkeys
    subst hks
    exact ⟨rfl, List.map_inj_left.mp h⟩
  · rintro ⟨rfl, h⟩
    exact List.map_congr_left h

end XrtcServer.Core
