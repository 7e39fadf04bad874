import Mathlib.Data.List.Rotate
import Mathlib.Order.MinMax
import XrtcServer.Base.Bytes
import XrtcServer.Core.Run

/-!
# The choice of a server

`RoundRobinSelector` hands out the addresses of its list in turn. `PickServer` chooses an index
under one lock and uses it under another, and `SetServer` replaces the list between any two of these
sections without a look at the index. The file runs the sections in any order, proves that the picks
go around the list as long as every new list covers the index and the picks in flight, and that a
list that does not lets a pick run outside.
-/

namespace XrtcServer.Signaling.Xrpc
open XrtcServer.Base XrtcServer.Core

variable {Addr : Type}

structure RoundRobinSelector (Addr : Type) where
  addrs : List Addr := []
  curIndex : Nat := 0

lemma length_of_mapM_eq_ok {α β ε : Type} {f : α → Except ε β} {l : List α} {l' : List β}
    (h : l.mapM f = .ok l') : l'.length = l.length := by
  induction l generalizing l' with
  | nil =>
    cases h
    rfl
  | cons a l ih =>
    rw [List.mapM_cons] at h
    obtain ⟨b, -, h⟩ := bind_eq_ok.mp h
    obtain ⟨bs, hl, h⟩ := bind_eq_ok.mp h
    cases h
    rw [List.length_cons, List.length_cons, ih hl]

lemma getElem?_concat_eq_some {α : Type*} {l : List α} {a b : α} {k : Nat}
    (h : (l ++ [a])[k]? = some b) : l[k]? = some b ∨ (k = l.length ∧ b = a) := by
  rw [List.getElem?_append] at h
  split at h
  · exact Or.inl h
  · obtain ⟨hk, hb⟩ := List.getElem?_eq_some_iff.mp h
    rw [List.length_singleton] at hk
    exact Or.inr ⟨by omega, by rw [← hb, List.getElem_singleton]⟩

lemma getElem?_set_eq_some {α : Type*} {l : List α} {a b : α} {j k : Nat}
    (h : (l.set k a)[j]? = some b) : l[j]? = some b ∨ (j = k ∧ b = a) := by
  rw [List.getElem?_set] at h
  split at h
  · split at h
    · exact Or.inr ⟨by omega, (Option.some.inj h).symm⟩
    · cases h
  · exact Or.inl h

namespace RoundRobinSelector

/-- `SetServer`, where `resolve` is `net.ResolveTCPAddr`: the new selector or the error. -/
def setServer (resolve : String → Except String Addr) (servers : List String)
    (rrs : RoundRobinSelector Addr) : Except String (RoundRobinSelector Addr) :=
  if servers.length = 0 then .error "servers is nil"
  else do
    let addrs ← servers.mapM resolve
    return { rrs with addrs }

/-- The first section of `PickServer`: the index and what it leaves. -/
def chooseIndex (rrs : RoundRobinSelector Addr) : Nat × RoundRobinSelector Addr :=
  let index := rrs.curIndex
  let rrs := { rrs with curIndex := rrs.curIndex + 1 }
  let rrs := if rrs.curIndex ≥ rrs.addrs.length then { rrs with curIndex := 0 } else rrs
  (index, rrs)

/-- The second section of `PickServer`. An index outside the list makes it panic. -/
def pickAt (rrs : RoundRobinSelector Addr) (index : Nat) : Option (Except String Addr) :=
  if rrs.addrs.length = 0 then some (.error "no server to pick")
  else rrs.addrs[index]?.map .ok

variable {rrs : RoundRobinSelector Addr}

@[simp] lemma addrs_chooseIndex (rrs : RoundRobinSelector Addr) :
    rrs.chooseIndex.2.addrs = rrs.addrs := by
  unfold chooseIndex
  dsimp only
  split <;> rfl

lemma curIndex_chooseIndex (rrs : RoundRobinSelector Addr) :
    rrs.chooseIndex.2.curIndex =
      if rrs.curIndex + 1 ≥ rrs.addrs.length then 0 else rrs.curIndex + 1 := by
  unfold chooseIndex
  dsimp only
  split <;> rfl

/-- Within the list the index goes around. -/
lemma curIndex_chooseIndex_mod (h : rrs.curIndex < rrs.addrs.length) :
    rrs.chooseIndex.2.curIndex = (rrs.curIndex + 1) % rrs.addrs.length := by
  rw [curIndex_chooseIndex]
  split
  · have hlast : rrs.curIndex + 1 = rrs.addrs.length := by omega
    rw [hlast, Nat.mod_self]
  · exact (Nat.mod_eq_of_lt (by omega)).symm

lemma curIndex_chooseIndex_lt (rrs : RoundRobinSelector Addr) :
    rrs.chooseIndex.2.curIndex < max 1 rrs.addrs.length := by
  rw [curIndex_chooseIndex]
  split <;> omega

@[simp] lemma pickAt_chooseIndex (rrs : RoundRobinSelector Addr) (index : Nat) :
    rrs.chooseIndex.2.pickAt index = rrs.pickAt index := by
  rw [pickAt, pickAt, addrs_chooseIndex]

lemma pickAt_of_nil {index : Nat} (h : rrs.addrs = []) :
    rrs.pickAt index = some (.error "no server to pick") := by
  rw [pickAt, h, List.length_nil, if_pos rfl]

lemma pickAt_of_lt {index : Nat} (h : index < rrs.addrs.length) :
    rrs.pickAt index = some (.ok rrs.addrs[index]) := by
  rw [pickAt, if_neg (by omega), List.getElem?_eq_getElem h, Option.map_some]

lemma pickAt_of_ge {index : Nat} (hne : rrs.addrs ≠ []) (h : rrs.addrs.length ≤ index) :
    rrs.pickAt index = none := by
  rw [pickAt, if_neg (mt List.length_eq_zero_iff.mp hne), List.getElem?_eq_none h, Option.map_none]

/-- Within the list, or with no list at all, the second section does not panic. -/
lemma pickAt_sound {index : Nat} (h : index < max 1 rrs.addrs.length) :
    (rrs.addrs = [] ∧ rrs.pickAt index = some (.error "no server to pick")) ∨
      ∃ a ∈ rrs.addrs, rrs.pickAt index = some (.ok a) := by
  by_cases hnil : rrs.addrs = []
  · exact Or.inl ⟨hnil, pickAt_of_nil hnil⟩
  · have hpos := List.length_pos_of_ne_nil hnil
    have hlt : index < rrs.addrs.length := by omega
    exact Or.inr ⟨_, List.getElem_mem hlt, pickAt_of_lt hlt⟩

/-- `SetServer` changes the list only, and not to the empty list. -/
lemma setServer_spec {resolve : String → Except String Addr} {servers : List String}
    {rrs' : RoundRobinSelector Addr} (h : rrs.setServer resolve servers = .ok rrs') :
    ∃ addrs, addrs.length = servers.length ∧ addrs ≠ [] ∧ rrs' = { rrs with addrs } := by
  unfold setServer at h
  split at h
  · cases h
  · rename_i hne
    obtain ⟨addrs, haddrs, h⟩ := bind_eq_ok.mp h
    cases h
    have hlen := length_of_mapM_eq_ok haddrs
    refine ⟨addrs, hlen, fun hnil => hne ?_, rfl⟩
    rw [← hlen, hnil, List.length_nil]

end RoundRobinSelector

/-- `NewClient` drops the error of `SetServer`. -/
def newClient (resolve : String → Except String Addr) (servers : List String) :
    RoundRobinSelector Addr :=
  match RoundRobinSelector.setServer resolve servers {} with
  | .ok rrs => rrs
  | .error _ => {}

/-- How a call of `PickServer` ended, and the list in force at that time. -/
structure Return (Addr : Type) where
  inForce : List Addr
  picked : Option (Except String Addr)

/-- A call of `PickServer` that has chosen its index, and has returned or not. -/
structure Pick (Addr : Type) where
  index : Nat
  result : Option (Return Addr) := none

/-- A selector with the calls of `PickServer`, in the order of their first sections. The first
`since` of them chose before the list was set. -/
structure Picking (Addr : Type) where
  selector : RoundRobinSelector Addr := {}
  picks : List (Pick Addr) := []
  since : Nat := 0

/-- The sections that take the lock. `finish` is the second section of the call with this number. -/
inductive PickEvent
  | setServer (servers : List String)
  | pick
  | finish (k : Nat)

namespace Picking

variable {resolve : String → Except String Addr} {s t : Picking Addr} {e : PickEvent}

/-- One section. `none` where there is no such call, or it has returned. -/
def step (resolve : String → Except String Addr) (s : Picking Addr) :
    PickEvent → Option (Picking Addr)
  | .setServer servers =>
    match s.selector.setServer resolve servers with
    | .ok selector => some { s with selector, since := s.picks.length }
    | .error _ => some s
  | .pick =>
    let (index, selector) := s.selector.chooseIndex
    some { s with selector, picks := s.picks ++ [{ index }] }
  | .finish k =>
    match s.picks[k]? with
    | some { index, result := none } =>
      let result := some { inForce := s.selector.addrs, picked := s.selector.pickAt index }
      some { s with picks := s.picks.set k { index, result } }
    | _ => none

def Steps (resolve : String → Except String Addr) (s : Picking Addr) (e : PickEvent)
    (t : Picking Addr) : Prop :=
  s.step resolve e = some t

/-- Every call that has returned has an address of the list in force, or the error where no list
was ever set. -/
def Sound (s : Picking Addr) : Prop :=
  ∀ p ∈ s.picks, ∀ r, p.result = some r →
    (r.inForce = [] ∧ r.picked = some (.error "no server to pick")) ∨
      ∃ a ∈ r.inForce, r.picked = some (.ok a)

/-- Some call has indexed outside the list. -/
def Panicked (s : Picking Addr) : Prop :=
  ∃ p ∈ s.picks, ∃ r, p.result = some r ∧ r.picked = none

/-- As many consecutive calls as the list has entries, all chosen and finished since it was set,
have returned every entry once. -/
def Rotates (s : Picking Addr) : Prop :=
  ∀ w, w <:+: s.picks.drop s.since → w.length = s.selector.addrs.length →
    (∀ p ∈ w, p.result ≠ none) →
      (w.map Pick.result).Perm
        (s.selector.addrs.map fun a => some ⟨s.selector.addrs, some (.ok a)⟩)

/-- A new list covers the index and the picks in flight. -/
def Fits (resolve : String → Except String Addr) (s : Picking Addr) : PickEvent → Prop
  | .setServer servers =>
    ∀ rrs, s.selector.setServer resolve servers = .ok rrs →
      rrs.curIndex < rrs.addrs.length ∧
        ∀ p ∈ s.picks, p.result = none → p.index < rrs.addrs.length
  | _ => True

/-- What every state of a run of fitting steps satisfies. While the list stays, the call with the
number `k` has the index `b + k`, taken around the list. -/
structure Inv (s : Picking Addr) : Prop where
  sound : s.Sound
  since_le : s.since ≤ s.picks.length
  curIndex_lt : s.selector.curIndex < max 1 s.selector.addrs.length
  held : ∀ p ∈ s.picks, p.result = none → p.index < max 1 s.selector.addrs.length
  turn : s.selector.addrs ≠ [] → ∃ b,
    s.selector.curIndex = (b + s.picks.length) % s.selector.addrs.length ∧
      ∀ k p, s.picks[k]? = some p → s.since ≤ k →
        p.index = (b + k) % s.selector.addrs.length
  given : ∀ k p r, s.picks[k]? = some p → s.since ≤ k → p.result = some r →
    r = ⟨s.selector.addrs, s.selector.pickAt p.index⟩

/-- The sections one by one. -/
lemma step_cases (h : s.Steps resolve e t) :
    (∃ servers rrs, e = .setServer servers ∧ s.selector.setServer resolve servers = .ok rrs ∧
      t = { s with selector := rrs, since := s.picks.length }) ∨
    (∃ servers error, e = .setServer servers ∧
      s.selector.setServer resolve servers = .error error ∧ t = s) ∨
    (e = .pick ∧ t =
      { s with
        selector := s.selector.chooseIndex.2
        picks := s.picks ++ [{ index := s.selector.curIndex }] }) ∨
    ∃ k index, e = .finish k ∧ s.picks[k]? = some { index } ∧
      t =
        { s with
          picks := s.picks.set k
            { index, result := some ⟨s.selector.addrs, s.selector.pickAt index⟩ } } := by
  cases e with
  | setServer servers =>
    simp only [Steps, step] at h
    split at h
    · exact Or.inl ⟨servers, _, rfl, ‹_›, (Option.some.inj h).symm⟩
    · exact Or.inr (Or.inl ⟨servers, _, rfl, ‹_›, (Option.some.inj h).symm⟩)
  | pick => exact Or.inr (Or.inr (Or.inl ⟨rfl, (Option.some.inj h).symm⟩))
  | finish k =>
    simp only [Steps, step] at h
    split at h
    · exact Or.inr (Or.inr (Or.inr ⟨k, _, rfl, ‹_›, (Option.some.inj h).symm⟩))
    · cases h

lemma inv_setServer {rrs : RoundRobinSelector Addr} (hi : s.Inv)
    (hindex : rrs.curIndex < rrs.addrs.length)
    (hheld : ∀ p ∈ s.picks, p.result = none → p.index < rrs.addrs.length) :
    Inv { s with selector := rrs, since := s.picks.length } where
  sound := hi.sound
  since_le := Nat.le_refl _
  curIndex_lt := lt_max_of_lt_right hindex
  held p hp hnone := lt_max_of_lt_right (hheld p hp hnone)
  turn _ := by
    -- the offset that gives the call after the last the index that is next
    have hle : s.picks.length ≤ s.picks.length * rrs.addrs.length :=
      Nat.le_mul_of_pos_right _ (by omega)
    refine ⟨rrs.curIndex + (s.picks.length * rrs.addrs.length - s.picks.length), ?_, ?_⟩
    · rw [Nat.add_assoc, Nat.sub_add_cancel hle, Nat.add_mul_mod_self_right,
        Nat.mod_eq_of_lt hindex]
    · intro k p hp hk
      rw [List.getElem?_eq_none hk] at hp
      cases hp
  given k p r hp hk _ := by
    rw [List.getElem?_eq_none hk] at hp
    cases hp

lemma inv_pick (hi : s.Inv) :
    Inv
      { s with
        selector := s.selector.chooseIndex.2
        picks := s.picks ++ [{ index := s.selector.curIndex }] } where
  sound p hp r hr := by
    rcases List.mem_append.mp hp with hp | hp
    · exact hi.sound p hp r hr
    · rw [List.mem_singleton.mp hp] at hr
      cases hr
  since_le := by
    rw [List.length_append]
    exact Nat.le_add_right_of_le hi.since_le
  curIndex_lt := by
    rw [RoundRobinSelector.addrs_chooseIndex]
    exact s.selector.curIndex_chooseIndex_lt
  held p hp hnone := by
    rw [RoundRobinSelector.addrs_chooseIndex]
    rcases List.mem_append.mp hp with hp | hp
    · exact hi.held p hp hnone
    · rw [List.mem_singleton.mp hp]
      exact hi.curIndex_lt
  turn hne := by
    rw [RoundRobinSelector.addrs_chooseIndex] at hne ⊢
    obtain ⟨b, hcur, hpicks⟩ := hi.turn hne
    have hpos := List.length_pos_of_ne_nil hne
    have hlt : s.selector.curIndex < s.selector.addrs.length := by
      rw [hcur]
      exact Nat.mod_lt _ hpos
    refine ⟨b, ?_, fun k p hp hk => ?_⟩
    · rw [RoundRobinSelector.curIndex_chooseIndex_mod hlt, hcur, Nat.mod_add_mod, Nat.add_assoc,
        List.length_append, List.length_singleton]
    · rcases getElem?_concat_eq_some hp with hp | ⟨rfl, rfl⟩
      · exact hpicks k p hp hk
      · exact hcur
  given k p r hp hk hr := by
    rw [RoundRobinSelector.addrs_chooseIndex, RoundRobinSelector.pickAt_chooseIndex]
    rcases getElem?_concat_eq_some hp with hp | ⟨rfl, rfl⟩
    · exact hi.given k p r hp hk hr
    · cases hr

lemma inv_finish {k index : Nat} (hi : s.Inv) (hk : s.picks[k]? = some { index }) :
    Inv
      { s with
        picks := s.picks.set k
          { index, result := some ⟨s.selector.addrs, s.selector.pickAt index⟩ } } where
  sound p hp r hr := by
    rcases List.mem_or_eq_of_mem_set hp with hp | rfl
    · exact hi.sound p hp r hr
    · cases hr
      exact RoundRobinSelector.pickAt_sound (hi.held _ (List.mem_of_getElem? hk) rfl)
  since_le := by
    rw [List.length_set]
    exact hi.since_le
  curIndex_lt := hi.curIndex_lt
  held p hp hnone := by
    rcases List.mem_or_eq_of_mem_set hp with hp | rfl
    · exact hi.held p hp hnone
    · cases hnone
  turn hne := by
    obtain ⟨b, hcur, hpicks⟩ := hi.turn hne
    refine ⟨b, by rw [List.length_set]; exact hcur, fun j p hp hj => ?_⟩
    rcases getElem?_set_eq_some hp with hp | ⟨rfl, rfl⟩
    · exact hpicks j p hp hj
    · exact hpicks j { index } hk hj
  given j p r hp hj hr := by
    rcases getElem?_set_eq_some hp with hp | ⟨rfl, rfl⟩
    · exact hi.given j p r hp hj hr
    · cases hr
      rfl

/-- A client begins with the list it was given, or with none. -/
lemma inv_newClient (resolve : String → Except String Addr) (servers : List String) :
    Inv { selector := newClient resolve servers } := by
  have hempty : Inv ({} : Picking Addr) :=
    { sound := fun _ hp => nomatch hp
      since_le := Nat.le_refl 0
      curIndex_lt := lt_max_of_lt_left Nat.one_pos
      held := fun _ hp => nomatch hp
      turn := fun hne => absurd rfl hne
      given := fun _ _ _ hp => nomatch hp }
  unfold newClient
  split
  · rename_i rrs hset
    obtain ⟨addrs, -, hne, rfl⟩ := RoundRobinSelector.setServer_spec hset
    exact inv_setServer hempty (List.length_pos_of_ne_nil hne) fun _ hp => nomatch hp
  · exact hempty

theorem inv_step (hi : s.Inv) (hfits : s.Fits resolve e) (h : s.Steps resolve e t) : t.Inv := by
  rcases step_cases h with ⟨servers, rrs, rfl, hset, rfl⟩ | ⟨servers, error, rfl, hset, rfl⟩ |
    ⟨rfl, rfl⟩ | ⟨k, index, rfl, hk, rfl⟩
  · obtain ⟨hindex, hheld⟩ := hfits rrs hset
    exact inv_setServer hi hindex hheld
  · exact hi
  · exact inv_pick hi
  · exact inv_finish hi hk

/-- Consecutive calls have gone around the list from where they began. -/
lemma rotates_of_inv (hi : s.Inv) : s.Rotates := by
  intro w hw hlen hdone
  obtain ⟨before, after, hpicks⟩ := hw
  by_cases hnil : s.selector.addrs = []
  · rw [hnil, List.length_nil, List.length_eq_zero_iff] at hlen
    rw [hlen, hnil]
    exact List.Perm.refl _
  obtain ⟨b, -, hturn⟩ := hi.turn hnil
  have haround : w.map Pick.result = (s.selector.addrs.rotate (b + (s.since + before.length))).map
      fun a => some ⟨s.selector.addrs, some (.ok a)⟩ := by
    refine List.ext_getElem (by simp [hlen]) fun i hi' _ => ?_
    rw [List.length_map] at hi'
    have hcall : s.picks[s.since + (before.length + i)]? = some w[i] := by
      rw [← List.getElem?_drop, ← hpicks, List.append_assoc, List.getElem?_append_right (by simp),
        Nat.add_sub_cancel_left, List.getElem?_append_left hi', List.getElem?_eq_getElem hi']
    have hindex : w[i].index =
        (i + (b + (s.since + before.length))) % s.selector.addrs.length := by
      rw [hturn _ _ hcall (by omega)]
      congr 1
      omega
    obtain ⟨r, hr⟩ := Option.ne_none_iff_exists'.mp (hdone _ (List.getElem_mem hi'))
    have hlt : w[i].index < s.selector.addrs.length := by
      rw [hindex]
      exact Nat.mod_lt _ (List.length_pos_of_ne_nil hnil)
    rw [List.getElem_map, List.getElem_map, List.getElem_rotate, hr,
      hi.given _ _ r hcall (by omega) hr, RoundRobinSelector.pickAt_of_lt hlt]
    simp only [hindex]
  rw [haround]
  exact (List.rotate_perm _ _).map _

lemma panicked_of_finish (resolve : String → Except String Addr) {k index : Nat} (hk : s.picks[k]? = some { index })
    (hne : s.selector.addrs ≠ []) (hindex : s.selector.addrs.length ≤ index) :
    ∃ t, s.step resolve (.finish k) = some t ∧ t.Panicked := by
  have hlt := (List.getElem?_eq_some_iff.mp hk).1
  exact ⟨_, by rw [step, hk], _, List.mem_set hlt _, _, rfl,
    RoundRobinSelector.pickAt_of_ge hne hindex⟩

/-- A new list that does not cover the index or a pick in flight lets a pick run outside. -/
lemma panicked_of_not_fits (h : s.Steps resolve e t) (hfits : ¬ s.Fits resolve e) :
    ∃ (es : List PickEvent) (u : Picking Addr),
      es.foldlM (step resolve) t = some u ∧ u.Panicked := by
  rcases step_cases h with ⟨servers, rrs, rfl, hset, rfl⟩ | ⟨servers, error, rfl, hset, rfl⟩ |
    ⟨rfl, rfl⟩ | ⟨k, index, rfl, hk, rfl⟩
  · obtain ⟨addrs, -, hne, rfl⟩ := RoundRobinSelector.setServer_spec hset
    by_cases hindex : s.selector.curIndex < addrs.length
    · have hheld : ∃ p ∈ s.picks, p.result = none ∧ addrs.length ≤ p.index := by
        by_contra hnot
        push Not at hnot
        refine hfits fun rrs hrrs => ?_
        rw [hset] at hrrs
        cases hrrs
        exact ⟨hindex, hnot⟩
      obtain ⟨⟨index, result⟩, hp, rfl, hlen⟩ := hheld
      obtain ⟨k, hk⟩ := List.getElem?_of_mem hp
      obtain ⟨u, hu, hpanic⟩ := panicked_of_finish resolve
        (s := { s with selector := { s.selector with addrs }, since := s.picks.length }) hk hne hlen
      exact ⟨[.finish k], u, by simp [hu], hpanic⟩
    · set t : Picking Addr :=
        { s with selector := { s.selector with addrs }, since := s.picks.length }
      obtain ⟨t', ht'⟩ : ∃ t', t.step resolve .pick = some t' := ⟨_, rfl⟩
      have hlast : t'.picks[s.picks.length]? = some { index := s.selector.curIndex } := by
        cases ht'
        exact List.getElem?_concat_length
      have haddrs : t'.selector.addrs = addrs := by
        cases ht'
        exact RoundRobinSelector.addrs_chooseIndex _
      obtain ⟨u, hu, hpanic⟩ := panicked_of_finish resolve hlast (haddrs ▸ hne)
        (haddrs ▸ Nat.le_of_not_lt hindex)
      exact ⟨[.pick, .finish s.picks.length], u, by simp [ht', hu], hpanic⟩
  · refine absurd (fun rrs hrrs => ?_) hfits
    rw [hset] at hrrs
    cases hrrs
  · exact absurd trivial hfits
  · exact absurd trivial hfits

/-- What the selector promises: the picks are sound and go around the list, and a list that does not
fit would let one panic. -/
structure Balanced (resolve : String → Except String Addr) (s : Picking Addr) : Prop where
  sound : s.Sound
  rotates : s.Rotates
  exact : ∀ e t, s.Steps resolve e t → ¬ s.Fits resolve e →
    ∃ (es : List PickEvent) (u : Picking Addr),
      es.foldlM (step resolve) t = some u ∧ u.Panicked

/-- While every new list covers the index and the picks in flight, no pick indexes outside the list
in force, and consecutive picks go around it. -/
theorem balanced_of_fits (resolve : String → Except String Addr) (servers : List String)
    (es : List PickEvent)
    (h : Meets (Steps resolve) (Fits resolve) { selector := newClient resolve servers } es) :
    Along (Steps resolve) (Balanced resolve) { selector := newClient resolve servers } es := by
  refine (h.along (I := Inv) (fun s e t hi hfits hstep => inv_step hi hfits hstep) ?_).mono ?_
  · exact inv_newClient resolve servers
  · intro s hi
    exact ⟨hi.sound, rotates_of_inv hi, fun e t hstep hfits => panicked_of_not_fits hstep hfits⟩

/-- Another list of two, between two picks. -/
theorem second_list_balanced :
    Along (Steps Except.ok) (Balanced Except.ok) { selector := newClient Except.ok ["a", "b"] }
      [.pick, .finish 0, .setServer ["c", "d"], .pick, .finish 1] := by
  refine balanced_of_fits Except.ok ["a", "b"] _ fun t ht => ⟨trivial, ?_⟩
  cases ht
  refine fun t ht => ⟨trivial, ?_⟩
  cases ht
  refine fun t ht => ⟨fun rrs hrrs => ?_, ?_⟩
  · cases hrrs
    refine ⟨by decide, fun p hp hnone => ?_⟩
    cases List.mem_singleton.mp hp
    cases hnone
  · cases ht
    exact fun _ _ => ⟨trivial, fun _ _ => ⟨trivial, trivial⟩⟩

/-- A list of one replaces a list of two while a pick is in flight. -/
theorem shorter_list_panics :
    ¬ Along (Steps Except.ok) Sound { selector := newClient Except.ok ["a", "b"] }
      [.pick, .pick, .setServer ["c"], .finish 1] := by
  intro h
  have hlast := h.last (fun _ _ _ hstep => hstep) (f := step Except.ok) rfl
  rcases hlast _ (List.mem_of_getElem? (i := 1) rfl) _ rfl with ⟨hnil, -⟩ | ⟨a, -, ha⟩
  · cases hnil
  · cases ha

end Picking

end XrtcServer.Signaling.Xrpc
