import Mathlib.Data.List.Sort

/-!
# Stable sorting by a comparator

`stableSort lt` orders a list by a boolean comparator and keeps the order of elements that the
comparator does not separate. The head of the result is described without the sort: it is the
element that beats everything in front of it and is beaten by nothing behind it.
-/

namespace XrtcServer.Core

variable {α : Type*} {lt : α → α → Bool} {l : List α} {a b c t u : α}

/-- Sorting by the comparator `lt`, stably. -/
def stableSort (lt : α → α → Bool) (l : List α) : List α :=
  l.insertionSort (fun a b => lt b a = false)

/-- What a comparator must satisfy for a sort by it to be defined. -/
structure StrictWeak (lt : α → α → Bool) : Prop where
  asymm : ∀ {a b}, lt a b = true → lt b a = false
  negTrans : ∀ {a b c}, lt b a = false → lt c b = false → lt c a = false

/-- `t` stands in `l` where it beats all before it and nothing after it beats it. -/
def IsFirst (lt : α → α → Bool) (l : List α) (t : α) : Prop :=
  ∃ l₁ l₂, l = l₁ ++ t :: l₂ ∧ (∀ c ∈ l₁, lt t c = true) ∧ ∀ c ∈ l₂, lt c t = false

/-- The comparator prefers neither of the two. -/
def tied (lt : α → α → Bool) (a b : α) : Bool :=
  !lt a b && !lt b a

/-- Smaller keys first. -/
def byKey {β : Type*} [LT β] [DecidableLT β] (f : α → β) (a b : α) : Bool :=
  f a < f b

/-- The first comparator decides, the second where the first does not. -/
def thenBy (lt lt' : α → α → Bool) (a b : α) : Bool :=
  lt a b || (!lt b a && lt' a b)

lemma StrictWeak.byKey {β : Type*} [LinearOrder β] (f : α → β) : StrictWeak (byKey f) where
  asymm h := by
    simp only [Core.byKey, decide_eq_true_eq, decide_eq_false_iff_not, not_lt] at h ⊢
    exact h.le
  negTrans h h' := by
    simp only [Core.byKey, decide_eq_false_iff_not, not_lt] at h h' ⊢
    exact h.trans h'

lemma thenBy_eq_false {lt lt' : α → α → Bool} :
    thenBy lt lt' a b = false ↔ lt a b = false ∧ (lt b a = true ∨ lt' a b = false) := by
  simp only [thenBy, Bool.or_eq_false_iff, Bool.and_eq_false_iff, Bool.not_eq_false']

lemma StrictWeak.thenBy {lt lt' : α → α → Bool} (h : StrictWeak lt) (h' : StrictWeak lt') :
    StrictWeak (thenBy lt lt') where
  asymm {a b} hab := by
    rw [thenBy_eq_false]
    simp only [Core.thenBy, Bool.or_eq_true, Bool.and_eq_true, Bool.not_eq_true'] at hab
    rcases hab with hab | ⟨hba, hab⟩
    · exact ⟨h.asymm hab, Or.inl hab⟩
    · exact ⟨hba, Or.inr (h'.asymm hab)⟩
  negTrans {a b c} hba hcb := by
    rw [thenBy_eq_false] at hba hcb ⊢
    refine ⟨h.negTrans hba.1 hcb.1, ?_⟩
    by_cases hac : lt a c = true
    · exact Or.inl hac
    · rw [Bool.not_eq_true] at hac
      have hab : ¬ lt a b = true := by simp [h.negTrans hcb.1 hac]
      have hbc : ¬ lt b c = true := by simp [h.negTrans hac hba.1]
      exact Or.inr (h'.negTrans (hba.2.resolve_left hab) (hcb.2.resolve_left hbc))

lemma stableSort_perm (lt : α → α → Bool) (l : List α) : (stableSort lt l).Perm l :=
  List.perm_insertionSort _ l

@[simp] lemma mem_stableSort : a ∈ stableSort lt l ↔ a ∈ l :=
  List.mem_insertionSort _

lemma StrictWeak.irrefl (h : StrictWeak lt) (a : α) : lt a a = false := by
  by_contra ha
  exact ha (h.asymm (Bool.eq_true_of_not_eq_false ha))

lemma StrictWeak.trans (h : StrictWeak lt) (hab : lt a b = true) (hbc : lt b c = true) :
    lt a c = true := by
  by_contra hac
  rw [Bool.not_eq_true] at hac
  -- nothing is lost from `a` to `c` and from `c` to `b`
  have hab' : lt a b = false := h.negTrans (h.asymm hbc) hac
  rw [hab] at hab'
  cases hab'

lemma tied_iff : tied lt a b = true ↔ lt a b = false ∧ lt b a = false := by
  simp only [tied, Bool.and_eq_true, Bool.not_eq_true']

lemma StrictWeak.tied_trans (h : StrictWeak lt) (hab : tied lt a b = true)
    (hbc : tied lt b c = true) : tied lt a c = true := by
  rw [tied_iff] at hab hbc ⊢
  exact ⟨h.negTrans hbc.1 hab.1, h.negTrans hab.2 hbc.2⟩

lemma StrictWeak.asymmetric (h : StrictWeak lt) : Std.Asymm (fun a b => lt a b = true) where
  asymm a b hab hba := by
    rw [h.asymm hab] at hba
    cases hba

/-- The two properties are those of a strict weak order. -/
theorem StrictWeak.isStrictWeakOrder (h : StrictWeak lt) :
    IsStrictWeakOrder α (fun a b => lt a b = true) where
  irrefl a := by simp [h.irrefl a]
  trans _ _ _ := h.trans
  incomp_trans a b c hab hbc := by
    simp only [Bool.not_eq_true, ← tied_iff] at hab hbc ⊢
    exact h.tied_trans hab hbc

/-- A comparator through a function, such as the content of a pointer. -/
lemma StrictWeak.comap {β : Type*} (h : StrictWeak lt) (f : β → α) :
    StrictWeak (fun a b => lt (f a) (f b)) where
  asymm hab := h.asymm hab
  negTrans hba hcb := h.negTrans hba hcb

/-- In a sorted list nothing is better than what stands before it. -/
theorem StrictWeak.pairwise_stableSort (h : StrictWeak lt) (l : List α) :
    (stableSort lt l).Pairwise (fun a b => lt b a = false) := by
  have htotal : Std.Total (fun a b : α => lt b a = false) := by
    refine ⟨fun a b => ?_⟩
    by_cases hba : lt b a = false
    · exact Or.inl hba
    · exact Or.inr (h.asymm (Bool.eq_true_of_not_eq_false hba))
  have htrans : IsTrans α (fun a b : α => lt b a = false) := ⟨fun _ _ _ => h.negTrans⟩
  exact List.pairwise_insertionSort _ l

/-- The sort is stable: each class of tied elements keeps its order. -/
theorem StrictWeak.filter_tied_stableSort (h : StrictWeak lt) (a : α) (l : List α) :
    (stableSort lt l).filter (tied lt a) = l.filter (tied lt a) := by
  have hclass : (l.filter (tied lt a)).Pairwise (fun b c => lt c b = false) := by
    refine List.pairwise_of_forall_mem_list fun b hb c hc => ?_
    obtain ⟨hab, -⟩ := tied_iff.mp (List.mem_filter.mp hb).2
    obtain ⟨-, hca⟩ := tied_iff.mp (List.mem_filter.mp hc).2
    exact h.negTrans hab hca
  have hkept : (l.filter (tied lt a)).Sublist (stableSort lt l) :=
    List.sublist_insertionSort hclass List.filter_sublist
  have hfilter := hkept.filter (tied lt a)
  rw [List.filter_filter] at hfilter
  simp only [Bool.and_self] at hfilter
  exact (hfilter.eq_of_length ((stableSort_perm lt l).filter _).length_eq.symm).symm

lemma IsFirst.mem (h : IsFirst lt l t) : t ∈ l := by
  obtain ⟨l₁, l₂, rfl, -, -⟩ := h
  simp

lemma IsFirst.not_lt (hlt : StrictWeak lt) (h : IsFirst lt l t) (hc : c ∈ l) :
    lt c t = false := by
  obtain ⟨l₁, l₂, rfl, hbefore, hafter⟩ := h
  rcases List.mem_append.mp hc with hc | hc
  · exact hlt.asymm (hbefore c hc)
  · rcases List.mem_cons.mp hc with rfl | hc
    · exact hlt.irrefl c
    · exact hafter c hc

lemma IsFirst.unique (h : IsFirst lt l t) (h' : IsFirst lt l u) : t = u := by
  obtain ⟨l₁, l₂, rfl, hbefore, hafter⟩ := h
  obtain ⟨m₁, m₂, heq, hbefore', hafter'⟩ := h'
  rcases List.append_eq_append_iff.mp heq with ⟨d, hm, hl⟩ | ⟨d, hm, hl⟩
  · cases d with
    | nil => exact (List.cons.inj hl).1
    | cons x d =>
      obtain ⟨rfl, rfl⟩ := List.cons.inj hl
      have hbeats := hbefore' t (by simp [hm])
      rw [hafter u (by simp)] at hbeats
      cases hbeats
  · cases d with
    | nil => exact (List.cons.inj hl).1.symm
    | cons x d =>
      obtain ⟨rfl, rfl⟩ := List.cons.inj hl
      have hbeats := hbefore u (by simp [hm])
      rw [hafter' t (by simp)] at hbeats
      cases hbeats

lemma isFirst_of_head? (hlt : StrictWeak lt) (h : (stableSort lt l).head? = some t) :
    IsFirst lt l t := by
  induction l generalizing t with
  | nil => cases h
  | cons a l ih =>
    cases hs : stableSort lt l with
    | nil =>
      have hl : l = [] := by simpa [hs] using (stableSort_perm lt l).symm
      subst hl
      cases h
      exact ⟨[], [], rfl, by simp, by simp⟩
    | cons b s =>
      have hb := ih (t := b) (by rw [hs, List.head?_cons])
      have hcons : stableSort lt (a :: l) =
          (b :: s).orderedInsert (fun a b => lt b a = false) a := by
        rw [← hs]
        rfl
      by_cases hba : lt b a = false
      · rw [hcons, List.orderedInsert_cons, if_pos hba, List.head?_cons, Option.some.injEq] at h
        subst h
        exact ⟨[], l, rfl, by simp, fun c hc => hlt.negTrans hba (hb.not_lt hlt hc)⟩
      · rw [hcons, List.orderedInsert_cons, if_neg hba, List.head?_cons, Option.some.injEq] at h
        subst h
        obtain ⟨l₁, l₂, rfl, hbefore, hafter⟩ := hb
        refine ⟨a :: l₁, l₂, rfl, fun c hc => ?_, hafter⟩
        rcases List.mem_cons.mp hc with rfl | hc
        · exact Bool.eq_true_of_not_eq_false hba
        · exact hbefore c hc

lemma exists_head?_stableSort (lt : α → α → Bool) (ha : a ∈ l) :
    ∃ t, (stableSort lt l).head? = some t := by
  rw [← Option.isSome_iff_exists, List.isSome_head?]
  exact List.ne_nil_of_mem (mem_stableSort.mpr ha)

/-- The head of the sorted list, described on the list itself. -/
theorem head?_stableSort_eq_some_iff (hlt : StrictWeak lt) :
    (stableSort lt l).head? = some t ↔ IsFirst lt l t := by
  refine ⟨isFirst_of_head? hlt, fun h => ?_⟩
  obtain ⟨u, hu⟩ := exists_head?_stableSort lt h.mem
  rw [hu, h.unique (isFirst_of_head? hlt hu)]

/-- The head of the sorted list has a property if and only if some element with it stands ahead of
all without it. -/
theorem head?_stableSort_satisfies_iff (hlt : StrictWeak lt) {P : α → Prop} :
    (∃ t, (stableSort lt l).head? = some t ∧ P t) ↔
      ∃ l₁ u l₂, l = l₁ ++ u :: l₂ ∧ P u ∧ (∀ c ∈ l₁, ¬ P c → lt u c = true) ∧
        ∀ c ∈ l₂, ¬ P c → lt c u = false := by
  constructor
  · rintro ⟨t, ht, hP⟩
    obtain ⟨l₁, l₂, rfl, hbefore, hafter⟩ := (head?_stableSort_eq_some_iff hlt).mp ht
    exact ⟨l₁, t, l₂, rfl, hP, fun c hc _ => hbefore c hc, fun c hc _ => hafter c hc⟩
  · rintro ⟨l₁, u, l₂, rfl, hP, hbefore, hafter⟩
    obtain ⟨t, ht⟩ := exists_head?_stableSort lt (l := l₁ ++ u :: l₂) (a := u) (by simp)
    refine ⟨t, ht, ?_⟩
    have hfirst := (head?_stableSort_eq_some_iff hlt).mp ht
    have hbest := hfirst.not_lt hlt (c := u) (by simp)
    by_contra hnot
    obtain ⟨m₁, m₂, heq, hbefore', -⟩ := hfirst
    rcases List.append_eq_append_iff.mp heq with ⟨d, hm, hl⟩ | ⟨d, hm, hl⟩
    · cases d with
      | nil => exact hnot ((List.cons.inj hl).1 ▸ hP)
      | cons x d =>
        -- `u` stands in front of the head, which therefore beats it
        obtain ⟨rfl, rfl⟩ := List.cons.inj hl
        have hbeats := hbefore' u (by simp [hm])
        rw [hafter t (by simp) hnot] at hbeats
        cases hbeats
    · cases d with
      | nil => exact hnot ((List.cons.inj hl).1 ▸ hP)
      | cons x d =>
        obtain ⟨rfl, rfl⟩ := List.cons.inj hl
        have hbeats := hbefore t (by simp [hm]) hnot
        rw [hbest] at hbeats
        cases hbeats

end XrtcServer.Core
