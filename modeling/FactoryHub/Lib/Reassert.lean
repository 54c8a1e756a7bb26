import FactoryHub.Lib.Settle
import Mathlib.Data.List.Basic
import Mathlib.Logic.Hydra
import Mathlib.Tactic.Abel
import Mathlib.Order.WellFoundedSet

/-!
# Sorting by assertion

Facts are listed by the index they were asserted with. A rule that finds two facts in the wrong
order retracts the first one and asserts it again, which moves it to the end. That may put it behind
facts it was before, so the pairs in the wrong order do not get fewer. What gets smaller is the
multiset of the keys of the facts that are before a smaller one: one key goes, and only larger keys
come.

* `settles` — firing comes to an end, whichever pairs are chosen.
* `sorted_of_atRest` — then the facts are in the order of their keys.
* `sorts` — both.
-/

namespace FactoryHub.Lib

/-- A fact with the index it was asserted with. -/
structure Indexed (α : Type) where
  index : ℕ
  fact : α
  deriving DecidableEq, Repr

/-- Facts, each of which has an index of its own. -/
structure FactList (α : Type) where
  facts : List (Indexed α)
  nodup : (facts.map Indexed.index).Nodup

namespace FactList

variable {α κ : Type} {l l' : FactList α} {a b f : Indexed α} {i : ℕ}

/-- The facts without `a`. -/
def others (l : FactList α) (a : Indexed α) : List (Indexed α) :=
  l.facts.eraseP (fun f => f.index = a.index)

/-- An index is larger than those of all facts. -/
def Fresh (l : FactList α) (i : ℕ) : Prop := ∀ f ∈ l.facts, f.index < i

theorem perm_others (ha : a ∈ l.facts) : l.facts.Perm (a :: l.others a) := by
  obtain ⟨a', l₁, l₂, -, hindex, hl, hothers⟩ :=
    List.exists_of_eraseP (p := fun f => decide (f.index = a.index)) ha (by simp)
  have ha' : a' = a := by
    apply List.inj_on_of_nodup_map l.nodup _ ha (of_decide_eq_true hindex)
    rw [hl]
    simp
  rw [others, hothers, hl, ha']
  exact List.perm_middle

theorem mem_others (ha : a ∈ l.facts) (hb : b ∈ l.facts) (hba : b ≠ a) : b ∈ l.others a := by
  have hmem := (perm_others ha).mem_iff.mp hb
  exact (List.mem_cons.mp hmem).resolve_left hba

theorem mem_of_mem_others (hf : f ∈ l.others a) : f ∈ l.facts := List.mem_of_mem_eraseP hf

/-- `a` is retracted and asserted again with a fresh index. -/
def reassert (l : FactList α) (a : Indexed α) (i : ℕ) (hfresh : l.Fresh i) : FactList α where
  facts := l.others a ++ [⟨i, a.fact⟩]
  nodup := by
    rw [List.map_append, List.nodup_append]
    refine ⟨?_, List.nodup_singleton _, ?_⟩
    · exact l.nodup.sublist (List.eraseP_sublist.map _)
    · intro j hj k hk
      obtain ⟨f, hf, rfl⟩ := List.mem_map.mp hj
      obtain rfl := List.mem_singleton.mp hk
      exact (hfresh f (mem_of_mem_others hf)).ne

theorem reassert_perm (ha : a ∈ l.facts) (hfresh : l.Fresh i) :
    ((l.reassert a i hfresh).facts.map Indexed.fact).Perm (l.facts.map Indexed.fact) := by
  have hsame : ((l.reassert a i hfresh).facts.map Indexed.fact).Perm
      ((a :: l.others a).map Indexed.fact) := by
    rw [reassert, List.map_append, List.map_cons, List.map_cons, List.map_nil]
    exact List.perm_append_singleton _ _
  exact hsame.trans ((perm_others ha).symm.map _)

/-! ## The rule -/

variable [LinearOrder κ] (key : α → κ)

/-- The rule fires for `a` and `b`. -/
def Fires (l l' : FactList α) : Prop :=
  ∃ a ∈ l.facts, ∃ b ∈ l.facts, (key a.fact > key b.fact ∧ a.index < b.index) ∧
    ∃ i, ∃ hfresh : l.Fresh i, l' = l.reassert a i hfresh

/-- A fact is before one with a smaller key. -/
def Inverted (l : FactList α) (f : Indexed α) : Prop :=
  ∃ b ∈ l.facts, key f.fact > key b.fact ∧ f.index < b.index

variable {key}

/-- The fact that is asserted again is before no other fact. -/
theorem not_inverted_reassert (hfresh : l.Fresh i) :
    ¬ (l.reassert a i hfresh).Inverted key ⟨i, a.fact⟩ := by
  rintro ⟨b, hb, -, hlt⟩
  rcases List.mem_append.mp hb with hb | hb
  · exact (hfresh b (mem_of_mem_others hb)).not_gt hlt
  · obtain rfl := List.mem_singleton.mp hb
    exact hlt.false

/-- Another fact that was before a smaller one still is. -/
theorem Inverted.reassert (h : l.Inverted key f) (ha : a ∈ l.facts) (hf : f ∈ l.facts)
    (hfresh : l.Fresh i) : (l.reassert a i hfresh).Inverted key f := by
  obtain ⟨b, hb, hkey, hlt⟩ := h
  by_cases hba : b = a
  · subst hba
    exact ⟨⟨i, b.fact⟩, List.mem_append_right _ (List.mem_singleton.mpr rfl), hkey, hfresh f hf⟩
  · exact ⟨b, List.mem_append_left _ (mem_others ha hb hba), hkey, hlt⟩

/-- A fact that gets before a smaller one is larger than the one asserted again. -/
theorem lt_of_inverted_reassert (hfresh : l.Fresh i) (hbefore : ¬ l.Inverted key f)
    (h : (l.reassert a i hfresh).Inverted key f) : key a.fact < key f.fact := by
  obtain ⟨b, hb, hkey, hlt⟩ := h
  rcases List.mem_append.mp hb with hb | hb
  · exact absurd ⟨b, mem_of_mem_others hb, hkey, hlt⟩ hbefore
  · obtain rfl := List.mem_singleton.mp hb
    exact hkey

/-! ## Firing comes to an end -/

open Classical in
/-- The keys of the facts that are before a smaller one. -/
noncomputable def invertedKeys (key : α → κ) (l : FactList α) : Multiset κ :=
  ((l.facts : Multiset (Indexed α)).filter (l.Inverted key)).map (fun f => key f.fact)

/-- The keys of the facts. -/
def keys (key : α → κ) (l : FactList α) : Set κ := {k | ∃ f ∈ l.facts, key f.fact = k}

omit [LinearOrder κ] in
theorem finite_keys (key : α → κ) (l : FactList α) : (l.keys key).Finite := by
  apply (l.facts.map (fun f => key f.fact)).finite_toSet.subset
  rintro k ⟨f, hf, rfl⟩
  exact List.mem_map.mpr ⟨f, hf, rfl⟩

omit [LinearOrder κ] in
theorem keys_reassert (ha : a ∈ l.facts) (hfresh : l.Fresh i) :
    (l.reassert a i hfresh).keys key = l.keys key := by
  have hmap (m : FactList α) : m.keys key = {k | ∃ x ∈ m.facts.map Indexed.fact, key x = k} := by
    simp [keys]
  rw [hmap, hmap]
  simp only [(reassert_perm ha hfresh).mem_iff]

/-- Larger keys come for one that goes. -/
theorem cutExpand_of_fires {S : Set κ} (hS : l.keys key ⊆ S) (h : Fires key l l') :
    Relation.CutExpand (fun k k' => k > k' ∧ k ∈ S ∧ k' ∈ S) (l'.invertedKeys key)
      (l.invertedKeys key) := by
  classical
  obtain ⟨a, ha, b, hb, ⟨hkey, hlt⟩, i, hfresh, rfl⟩ := h
  let l' := l.reassert a i hfresh
  let rest : Multiset (Indexed α) := l.others a
  -- what is before a smaller fact now, and was not
  let came := (rest.filter (l'.Inverted key)).filter (fun f => ¬ l.Inverted key f)
  refine ⟨came.map (fun f => key f.fact), key a.fact, ?_, ?_⟩
  · intro k hk
    obtain ⟨f, hf, rfl⟩ := Multiset.mem_map.mp hk
    obtain ⟨hf, hbefore⟩ := Multiset.mem_filter.mp hf
    obtain ⟨hrest, hafter⟩ := Multiset.mem_filter.mp hf
    refine ⟨lt_of_inverted_reassert hfresh hbefore hafter, hS ⟨f, ?_, rfl⟩, hS ⟨a, ha, rfl⟩⟩
    exact mem_of_mem_others hrest
  · have hfacts : (l.facts : Multiset (Indexed α)) = a ::ₘ rest :=
      Multiset.coe_eq_coe.mpr (perm_others ha)
    have hbefore : l.invertedKeys key =
        key a.fact ::ₘ (rest.filter (l.Inverted key)).map (fun f => key f.fact) := by
      rw [invertedKeys, hfacts, Multiset.filter_cons_of_pos _ ⟨b, hb, hkey, hlt⟩, Multiset.map_cons]
    have hafter : l'.invertedKeys key =
        (rest.filter (l'.Inverted key)).map (fun f => key f.fact) := by
      have hfacts' : (l'.facts : Multiset (Indexed α)) = rest + {⟨i, a.fact⟩} := rfl
      rw [invertedKeys, hfacts', Multiset.filter_add, Multiset.filter_singleton,
        if_neg (not_inverted_reassert hfresh)]
      simp
    have hkept : (rest.filter (l'.Inverted key)).filter (l.Inverted key) =
        rest.filter (l.Inverted key) := by
      rw [Multiset.filter_filter]
      apply Multiset.filter_congr
      intro f hf
      have hmem : f ∈ l.facts := mem_of_mem_others hf
      exact ⟨fun h => h.1, fun h => ⟨h, h.reassert ha hmem hfresh⟩⟩
    show l'.invertedKeys key + {key a.fact} = _
    rw [hbefore, hafter, ← Multiset.filter_add_not (l.Inverted key)
      (rest.filter (l'.Inverted key)), hkept, Multiset.map_add, ← Multiset.singleton_add]
    abel

theorem settles (key : α → κ) (l : FactList α) : Settles (Fires key) l := by
  have hwf := Set.wellFoundedOn_iff.mp ((l.finite_keys key).wellFoundedOn (r := (· > ·)))
  apply settles_of_wellFounded hwf.cutExpand (I := fun l' => l'.keys key ⊆ l.keys key)
    (invertedKeys key)
  · intro m m' hm h
    refine ⟨?_, cutExpand_of_fires hm h⟩
    obtain ⟨a, ha, b, hb, -, i, hfresh, rfl⟩ := h
    rw [keys_reassert ha hfresh]
    exact hm
  · exact subset_rfl

/-! ## The order at rest -/

/-- The facts are in the order of their keys. -/
def Sorted (key : α → κ) (l : FactList α) : Prop :=
  ∀ a ∈ l.facts, ∀ b ∈ l.facts, a.index < b.index ↔ key a.fact < key b.fact

theorem exists_fresh (l : FactList α) : ∃ i, l.Fresh i := by
  refine ⟨(l.facts.map Indexed.index).sum + 1, fun f hf => ?_⟩
  have hle := List.single_le_sum (fun _ _ => Nat.zero_le _) _
    (List.mem_map_of_mem (f := Indexed.index) hf)
  omega

theorem sorted_of_atRest (hkeys : (l.facts.map (fun f => key f.fact)).Nodup)
    (hrest : AtRest (Fires key) l) : l.Sorted key := by
  have hle (a b : Indexed α) (ha : a ∈ l.facts) (hb : b ∈ l.facts) (hlt : a.index < b.index) :
      key a.fact ≤ key b.fact := by
    by_contra hgt
    obtain ⟨i, hfresh⟩ := l.exists_fresh
    exact hrest _ ⟨a, ha, b, hb, ⟨not_le.mp hgt, hlt⟩, i, hfresh, rfl⟩
  intro a ha b hb
  constructor
  · intro hlt
    apply lt_of_le_of_ne (hle a b ha hb hlt)
    intro heq
    obtain rfl := List.inj_on_of_nodup_map hkeys ha hb heq
    exact hlt.false
  · intro hlt
    rcases Nat.lt_trichotomy a.index b.index with hindex | hindex | hindex
    · exact hindex
    · obtain rfl := List.inj_on_of_nodup_map l.nodup ha hb hindex
      exact absurd hlt (lt_irrefl _)
    · exact absurd hlt (hle b a hb ha hindex).not_gt

/-! ## Runs -/

theorem perm_of_fires (h : Fires key l l') :
    (l'.facts.map Indexed.fact).Perm (l.facts.map Indexed.fact) := by
  obtain ⟨a, ha, b, hb, -, i, hfresh, rfl⟩ := h
  exact reassert_perm ha hfresh

/-- Firing loses no fact. -/
theorem perm_of_path (h : Relation.ReflTransGen (Fires key) l l') :
    (l'.facts.map Indexed.fact).Perm (l.facts.map Indexed.fact) := by
  induction h with
  | refl => exact .refl _
  | tail _ hfires ih => exact (perm_of_fires hfires).trans ih

/-- Every sequence of firings ends, and leaves the same facts in the order of their keys. -/
structure Sorts (fires : FactList α → FactList α → Prop) (key : α → κ) (l : FactList α) : Prop where
  settles : Settles fires l
  not_endless : ¬ ∃ f : ℕ → FactList α, f 0 = l ∧ ∀ n, fires (f n) (f (n + 1))
  sorted : ∀ l', Relation.ReflTransGen fires l l' → AtRest fires l' →
    l'.Sorted key ∧ (l'.facts.map Indexed.fact).Perm (l.facts.map Indexed.fact)

theorem sorts (hkeys : (l.facts.map (fun f => key f.fact)).Nodup) : Sorts (Fires key) key l where
  settles := settles key l
  not_endless := (settles key l).not_endless
  sorted l' hpath hrest := by
    have hperm := perm_of_path hpath
    refine ⟨sorted_of_atRest ?_ hrest, hperm⟩
    have hkeys' := (hperm.map key).nodup_iff
    rw [List.map_map, List.map_map] at hkeys'
    exact hkeys'.mpr hkeys

end FactList

end FactoryHub.Lib
