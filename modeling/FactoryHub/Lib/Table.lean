import FactoryHub.Lib.Triple
import Mathlib.Data.List.Perm.Basic
import Mathlib.Data.Set.Defs
import Mathlib.Logic.Function.Basic

/-!
# Facts as a table

A list of facts under keys that has one fact for each of `keys`, in any order, is a table. To
replace a fact is to update the table.

* `Tabulates.replace` — the list after a fact has been replaced by a new one of its key.
* `Triple.foldlM_disjoint` — a loop whose rounds change disjoint sets of keys does what each of its
  rounds does.
-/

namespace FactoryHub.Lib

/-! ## Tables -/

section Table

variable {K V : Type} {keys : List K} {t : K → V} {facts : List (K × V)}

/-- The facts are those of the table `t`, in some order. -/
def Tabulates (keys : List K) (t : K → V) (facts : List (K × V)) : Prop :=
  facts.Perm (keys.map fun k => (k, t k))

namespace Tabulates

theorem mem_facts_iff (h : Tabulates keys t facts) {fact : K × V} :
    fact ∈ facts ↔ fact.1 ∈ keys ∧ fact.2 = t fact.1 := by
  rw [List.Perm.mem_iff h, List.mem_map]
  constructor
  · rintro ⟨k, hk, rfl⟩
    exact ⟨hk, rfl⟩
  · rintro ⟨hk, hv⟩
    exact ⟨fact.1, hk, Prod.ext rfl hv.symm⟩

theorem keys_perm (h : Tabulates keys t facts) : (facts.map Prod.fst).Perm keys := by
  have hmap := List.Perm.map Prod.fst h
  rwa [List.map_map, show (Prod.fst ∘ fun k => (k, t k)) = id from rfl, List.map_id] at hmap

theorem filter_perm (h : Tabulates keys t facts) (p : K × V → Bool) :
    (facts.filter p).Perm ((keys.filter fun k => p (k, t k)).map fun k => (k, t k)) := by
  have hfilter := List.Perm.filter p h
  rwa [List.filter_map] at hfilter

/-- What is selected of a table has each key once. -/
theorem nodup_filter (h : Tabulates keys t facts) (hkeys : keys.Nodup) (p : K × V → Bool) :
    ((facts.filter p).map Prod.fst).Nodup := by
  have hnodup : (facts.map Prod.fst).Nodup := h.keys_perm.nodup_iff.mpr hkeys
  exact hnodup.sublist (List.filter_sublist.map _)

variable [DecidableEq K]

theorem find (h : Tabulates keys t facts) {k : K} (hk : k ∈ keys) :
    facts.find? (fun fact => fact.1 = k) = some (k, t k) := by
  cases hfind : facts.find? (fun fact => fact.1 = k) with
  | none =>
      have hnone := List.find?_eq_none.mp hfind (k, t k) (h.mem_facts_iff.mpr ⟨hk, rfl⟩)
      simp at hnone
  | some fact =>
      have hkey : fact.1 = k := by simpa using List.find?_some hfind
      have hval := (h.mem_facts_iff.mp (List.mem_of_find?_eq_some hfind)).2
      subst hkey
      exact congrArg some (Prod.ext rfl hval)

theorem update_of_not_mem {l : List K} {k : K} (hk : k ∉ l) (v : V) :
    (l.map fun k' => (k', Function.update t k v k')) = l.map fun k' => (k', t k') := by
  apply List.map_congr_left
  intro k' hk'
  rw [Function.update_of_ne]
  rintro rfl
  exact hk hk'

variable [DecidableEq V]

theorem replace (h : Tabulates keys t facts) (hkeys : keys.Nodup) {k : K} (hk : k ∈ keys) (v : V) :
    Tabulates keys (Function.update t k v) (facts.erase (k, t k) ++ [(k, v)]) := by
  have hperm := List.perm_cons_erase hk
  have hmem : (k, t k) ∈ facts := h.mem_facts_iff.mpr ⟨hk, rfl⟩
  -- the other facts are those of the other keys
  have hrest : (facts.erase (k, t k)).Perm ((keys.erase k).map fun k' => (k', t k')) := by
    have hcons : ((k, t k) :: facts.erase (k, t k)).Perm
        ((k, t k) :: (keys.erase k).map fun k' => (k', t k')) :=
      ((List.perm_cons_erase hmem).symm.trans h).trans (hperm.map fun k' => (k', t k'))
    exact hcons.cons_inv
  have hnot : k ∉ keys.erase k := hkeys.not_mem_erase
  have hnew : (keys.map fun k' => (k', Function.update t k v k')).Perm
      ((k, v) :: (keys.erase k).map fun k' => (k', t k')) := by
    have hmap := hperm.map fun k' => (k', Function.update t k v k')
    rwa [List.map_cons, Function.update_self, update_of_not_mem hnot] at hmap
  exact (List.perm_append_singleton _ _).trans ((hrest.cons _).trans hnew.symm)

end Tabulates

end Table

/-! ## Loops -/

section Loops

variable {σ α K V : Type}

variable {H : (K → V) → σ → Prop} {F : α → Set K} {R : α → (K → V) → Prop}
  {f : PUnit → α → StateM σ PUnit}

/-- What a loop does whose rounds change disjoint sets of keys: `R a` is what the round of `a` makes
true of the keys `F a` it changes. -/
theorem Triple.foldlM_disjoint {l : List α}
    (hl : l.Pairwise fun a b => ∀ k ∈ F a, k ∉ F b)
    (hR : ∀ a t t', (∀ k ∈ F a, t k = t' k) → R a t → R a t')
    {t : K → V}
    (h : ∀ a ∈ l, ∀ t₁, (∀ k ∈ F a, t₁ k = t k) →
      Triple (H t₁) (f ⟨⟩ a) fun _ s =>
        ∃ t₂, H t₂ s ∧ R a t₂ ∧ ∀ k ∉ F a, t₂ k = t₁ k) :
    Triple (H t) (l.foldlM f ⟨⟩) fun _ s =>
      ∃ t', H t' s ∧ (∀ a ∈ l, R a t') ∧ ∀ k, (∀ a ∈ l, k ∉ F a) → t' k = t k := by
  induction l generalizing t with
  | nil =>
      refine Triple.pure fun s hs => ⟨t, hs, ?_, fun _ _ => rfl⟩
      simp
  | cons a l ih =>
      obtain ⟨ha, hl⟩ := List.pairwise_cons.mp hl
      rw [List.foldlM_cons]
      refine Triple.bind (h a (by simp) t fun _ _ => rfl) fun _ s => ?_
      rintro ⟨t₂, hs, hRa, hframe⟩
      have hother : ∀ b ∈ l, ∀ k ∈ F b, t₂ k = t k := by
        intro b hb k hk
        apply hframe
        intro hka
        exact ha b hb k hka hk
      have hloop := ih hl (t := t₂) fun b hb t₁ ht₁ =>
        h b (List.mem_cons_of_mem a hb) t₁ fun k hk => (ht₁ k hk).trans (hother b hb k hk)
      obtain ⟨t', hs', hR', hframe'⟩ := hloop s hs
      refine ⟨t', hs', ?_, ?_⟩
      · intro b hb
        rcases List.mem_cons.mp hb with rfl | hb
        · -- the later rounds leave the keys of this one alone
          apply hR b t₂ t' _ hRa
          intro k hk
          refine (hframe' k fun c hc hkc => ?_).symm
          exact ha c hc k hk hkc
        · exact hR' b hb
      · intro k hk
        rw [hframe' k fun b hb => hk b (List.mem_cons_of_mem a hb)]
        exact hframe k (hk a (by simp))

end Loops

end FactoryHub.Lib
