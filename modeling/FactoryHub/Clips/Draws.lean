import FactoryHub.Clips.Random
import Mathlib.Data.List.GetD

/-!
# What is drawn

The results of `pick-random$` and `randomize$` as functions of the numbers drawn: `pickAt rand n l`
and `shuffleAt rand n l` are what they give from draw number `n` on.

* `pickAt_mem`, `mem_of_mem_shuffleAt`, `shuffleAt_perm` — where the elements come from.
* `randomize_preserves_list` — both functions over every stream of positions.
* `shuffleAt_map`, `nth_shuffleAt` — a list is shuffled by its positions alone.
-/

namespace FactoryHub.Clips

variable {α β : Type} [Inhabited α] [Inhabited β] (rand : ℕ → ℕ)

/-- What `pick-random$` gives at draw number `n`. -/
def pickAt (n : ℕ) (l : List α) : α := (pickRandom rand l n).1

/-- What `randomize$` gives from draw number `n` on. -/
def shuffleAt (n : ℕ) (l : List α) : List α := (randomize rand l n).1

variable {rand}

/-! ## Elements of a list -/

theorem nth_succ (i : ℕ) (l : List α) : nth (i + 1) l = l.getD i default := rfl

theorem nth_mem {i : ℕ} {l : List α} (hpos : 0 < i) (hle : i ≤ l.length) : nth i l ∈ l := by
  obtain ⟨i, rfl⟩ := Nat.exists_eq_add_of_lt hpos
  rw [Nat.zero_add, nth_succ, List.getD_eq_getElem _ _ (by omega)]
  exact List.getElem_mem _

theorem nth_map {f : α → β} {i : ℕ} {l : List α} (hpos : 0 < i) (hle : i ≤ l.length) :
    nth i (l.map f) = f (nth i l) := by
  obtain ⟨i, rfl⟩ := Nat.exists_eq_add_of_lt hpos
  rw [Nat.zero_add, nth_succ, nth_succ, List.getD_eq_getElem _ _ (by simp; omega),
    List.getD_eq_getElem _ _ (by omega), List.getElem_map]

omit [Inhabited α] in
theorem mem_deleteMember [DecidableEq α] {l : List α} {x y : α} :
    y ∈ deleteMember l x ↔ y ∈ l ∧ y ≠ x := by
  simp [deleteMember]

omit [Inhabited α] in
theorem mem_foldl_deleteMember [DecidableEq α] {l xs : List α} {y : α} :
    y ∈ xs.foldl deleteMember l ↔ y ∈ l ∧ y ∉ xs := by
  induction xs generalizing l with
  | nil => simp
  | cons x xs ih =>
      rw [List.foldl_cons, ih, mem_deleteMember, List.mem_cons, not_or]
      exact and_assoc

omit [Inhabited α] in
/-- From a list without duplicates, a member is deleted once. -/
theorem length_deleteMember [DecidableEq α] {l : List α} {x : α} (hnodup : l.Nodup) (hx : x ∈ l) :
    (deleteMember l x).length + 1 = l.length := by
  have herase : deleteMember l x = l.erase x := by
    rw [hnodup.erase_eq_filter, deleteMember]
    apply List.filter_congr
    intro y _
    apply Bool.eq_iff_iff.mpr
    simp
  rw [herase, List.length_erase_of_mem hx]
  have hpos := List.length_pos_of_mem hx
  omega

omit [Inhabited α] in
theorem nodup_deleteMember [DecidableEq α] {l : List α} {x : α} (hnodup : l.Nodup) :
    (deleteMember l x).Nodup := hnodup.filter _

/-- Of `n` different elements at most `m` have been deleted. -/
structure Left {γ : Type} (n m : ℕ) (l : List γ) : Prop where
  nodup : l.Nodup
  length : n ≤ l.length + m

namespace Left

variable {γ : Type} {n m : ℕ} {l : List γ}

theorem ne_nil (h : Left n m l) (hlt : m < n) : l ≠ [] := by
  apply List.ne_nil_of_length_pos
  have hlen := h.length
  omega

theorem deleteMember [DecidableEq γ] (h : Left n m l) (x : γ) :
    Left n (m + 1) (deleteMember l x) where
  nodup := nodup_deleteMember h.nodup
  length := by
    by_cases hx : x ∈ l
    · have hlen := length_deleteMember h.nodup hx
      have hle := h.length
      omega
    · have hall : Clips.deleteMember l x = l := by
        apply List.filter_eq_self.mpr
        intro y hy
        rw [decide_eq_true_eq]
        rintro rfl
        exact hx hy
      rw [hall]
      have hle := h.length
      omega

theorem foldl_deleteMember [DecidableEq γ] (h : Left n m l) (xs : List γ) :
    Left n (m + xs.length) (xs.foldl Clips.deleteMember l) := by
  induction xs generalizing l m with
  | nil => exact h
  | cons x xs ih =>
      rw [List.foldl_cons, List.length_cons, Nat.add_comm xs.length, ← Nat.add_assoc]
      exact ih (h.deleteMember x)

end Left

/-! ## Picking -/

theorem random_mem (rand : ℕ → ℕ) (n : ℕ) {a b : ℕ} (h : a ≤ b) :
    a ≤ (random rand a b n).1 ∧ (random rand a b n).1 ≤ b := by
  have hlt : rand n % (b + 1 - a) < b + 1 - a := Nat.mod_lt _ (by omega)
  simp only [random]
  omega

/-- A drawn position is one of the list. -/
theorem random_le (rand : ℕ → ℕ) (n : ℕ) {k : ℕ} (hk : 0 < k) :
    0 < (random rand 1 k n).1 ∧ (random rand 1 k n).1 ≤ k := random_mem rand n hk

/-- Every stream of positions in a list of `k` elements is drawn from some source. -/
theorem random_stream {k : ℕ} {idx : ℕ → ℕ} (hidx : ∀ i, 1 ≤ idx i ∧ idx i ≤ k) :
    ∃ rand, ∀ n, (random rand 1 k n).1 = idx n := by
  refine ⟨fun i => idx i - 1, ?_⟩
  intro n
  obtain ⟨hpos, hle⟩ := hidx n
  show 1 + (idx n - 1) % (k + 1 - 1) = idx n
  rw [Nat.add_sub_cancel, Nat.mod_eq_of_lt (by omega)]
  omega

theorem pickAt_mem (n : ℕ) {l : List α} (hl : l ≠ []) : pickAt rand n l ∈ l := by
  obtain ⟨hpos, hle⟩ := random_le rand n (List.length_pos_of_ne_nil hl)
  exact nth_mem hpos hle

/-! ## Shuffling -/

/-- One exchange, with the positions drawn. -/
theorem swapRandom_run (n : ℕ) (l : List α) :
    swapRandom rand l n =
      (replace (replace l (random rand 1 l.length n).1 (nth (random rand 1 l.length (n + 1)).1 l))
        (random rand 1 l.length (n + 1)).1 (nth (random rand 1 l.length n).1 l), n + 2) := rfl

theorem length_swapRandom (n : ℕ) (l : List α) : (swapRandom rand l n).1.length = l.length := by
  rw [swapRandom_run]
  simp [replace]

/-- An exchange only changes the order. -/
theorem swapRandom_perm (n : ℕ) (l : List α) : (swapRandom rand l n).1.Perm l := by
  rcases Nat.eq_zero_or_pos l.length with hnil | hlen
  · have hnil' : (swapRandom rand l n).1.length = 0 := (length_swapRandom n l).trans hnil
    rw [List.length_eq_zero_iff] at hnil hnil'
    rw [hnil', hnil]
  obtain ⟨ha, ha'⟩ := random_le rand n hlen
  obtain ⟨hb, hb'⟩ := random_le rand (n + 1) hlen
  rw [swapRandom_run]
  generalize (random rand 1 l.length n).1 = a at *
  generalize (random rand 1 l.length (n + 1)).1 = b at *
  obtain ⟨i, rfl⟩ := Nat.exists_eq_add_of_lt ha
  obtain ⟨j, rfl⟩ := Nat.exists_eq_add_of_lt hb
  show ((l.set (0 + i + 1 - 1) (nth (0 + j + 1) l)).set (0 + j + 1 - 1) (nth (0 + i + 1) l)).Perm l
  simp only [Nat.zero_add, Nat.add_sub_cancel, nth_succ]
  rw [List.getD_eq_getElem _ _ (by omega), List.getD_eq_getElem _ _ (by omega)]
  exact List.set_set_perm (by omega) (by omega)

theorem swapRandom_map (f : α → β) (n : ℕ) {l : List α} (hl : l ≠ []) :
    (swapRandom rand (l.map f) n).1 = (swapRandom rand l n).1.map f := by
  have hlen := List.length_pos_of_ne_nil hl
  obtain ⟨ha, ha'⟩ := random_le rand n hlen
  obtain ⟨hb, hb'⟩ := random_le rand (n + 1) hlen
  rw [swapRandom_run, swapRandom_run, List.length_map, nth_map ha ha', nth_map hb hb']
  simp only [replace, List.map_set]

/-- The loop of `randomize$` over any counters. -/
theorem foldlM_swapRandom (is : List ℕ) (n : ℕ) (l : List α) :
    (is.foldlM (fun l _ => swapRandom rand l) l : StateM ℕ (List α)) n =
      ((is.foldl (fun (s : List α × ℕ) _ => swapRandom rand s.1 s.2) (l, n)).1,
        n + 2 * is.length) := by
  induction is generalizing n l with
  | nil => rfl
  | cons i is ih =>
      rw [List.foldlM_cons, List.foldl_cons, List.length_cons]
      show (is.foldlM (fun l _ => swapRandom rand l) (swapRandom rand l n).1 : StateM ℕ (List α))
        (n + 2) = _
      rw [ih]
      refine Prod.ext rfl ?_
      show n + 2 + 2 * is.length = n + 2 * (is.length + 1)
      omega

theorem randomize_run (n : ℕ) (l : List α) :
    randomize rand l n = (shuffleAt rand n l, n + 400) := by
  have hdraws : (randomize rand l n).2 = n + 400 := by
    rw [randomize, foldlM_swapRandom, List.length_range]
  rw [shuffleAt, ← hdraws]
  generalize randomize rand l n = r
  rfl

/-- What every exchange keeps, the shuffled list has. -/
theorem shuffleAt_invariant {I : List α → Prop}
    (hswap : ∀ l n, I l → I (swapRandom rand l n).1) (n : ℕ) {l : List α} (h : I l) :
    I (shuffleAt rand n l) := by
  rw [shuffleAt, randomize, foldlM_swapRandom]
  generalize List.range 200 = is
  dsimp only
  induction is generalizing l n with
  | nil => exact h
  | cons i is ih =>
      rw [List.foldl_cons]
      exact ih (swapRandom rand l n).2 (hswap l n h)

@[simp] theorem length_shuffleAt (n : ℕ) (l : List α) : (shuffleAt rand n l).length = l.length := by
  apply shuffleAt_invariant (I := fun l' => l'.length = l.length)
  · intro l' n h
    rw [length_swapRandom, h]
  · rfl

theorem shuffleAt_perm (n : ℕ) (l : List α) : (shuffleAt rand n l).Perm l := by
  apply shuffleAt_invariant (I := fun l' => l'.Perm l)
  · intro l' n h
    exact (swapRandom_perm n l').trans h
  · exact List.Perm.refl l

theorem mem_of_mem_shuffleAt {n : ℕ} {l : List α} {x : α} (hx : x ∈ shuffleAt rand n l) :
    x ∈ l := (shuffleAt_perm n l).mem_iff.mp hx

/-- Whatever positions are drawn, the shuffle leaves the elements of the list and the pick is one of
them; and the sources of draws give every stream of positions. -/
theorem randomize_preserves_list {l : List α} (hl : l ≠ []) :
    (∀ rand n, ((randomize rand l).run n).1.Perm l ∧
      ((randomize rand l).run n).1.length = l.length ∧ ((pickRandom rand l).run n).1 ∈ l) ∧
    ∀ idx : ℕ → ℕ, (∀ i, 1 ≤ idx i ∧ idx i ≤ l.length) →
      ∃ rand, ∀ n, ((random rand 1 l.length).run n).1 = idx n := by
  constructor
  · intro rand n
    refine ⟨?_, ?_, ?_⟩
    · exact shuffleAt_perm n l
    · exact length_shuffleAt n l
    · exact pickAt_mem n hl
  · intro idx hidx
    exact random_stream hidx

/-- Over three machines: all draws alike, draws that differ, and the stream of the second position. -/
theorem randomize_preserves_three :
    (((randomize (fun _ => 0) ["M1", "M2", "M3"]).run 0).1.Perm ["M1", "M2", "M3"] ∧
      ((pickRandom (fun i => i) ["M1", "M2", "M3"]).run 7).1 ∈ ["M1", "M2", "M3"]) ∧
    ∃ rand, ∀ n, ((random rand 1 3).run n).1 = 2 := by
  have hne : ["M1", "M2", "M3"] ≠ [] := by decide
  obtain ⟨hdraw, hstream⟩ := randomize_preserves_list hne
  refine ⟨⟨?_, ?_⟩, ?_⟩
  · exact (hdraw (fun _ => 0) 0).1
  · exact (hdraw (fun i => i) 7).2.2
  · exact hstream (fun _ => 2) (fun _ => by decide)

/-- A list is shuffled by its positions: what the elements are plays no part. -/
theorem shuffleAt_map (f : α → β) (n : ℕ) {l : List α} (hl : l ≠ []) :
    shuffleAt rand n (l.map f) = (shuffleAt rand n l).map f := by
  rw [shuffleAt, shuffleAt, randomize, randomize, foldlM_swapRandom, foldlM_swapRandom]
  generalize List.range 200 = is
  dsimp only
  induction is generalizing l n with
  | nil => rfl
  | cons i is ih =>
      have hne : (swapRandom rand l n).1 ≠ [] := by
        rw [← List.length_pos_iff_ne_nil, length_swapRandom]
        exact List.length_pos_of_ne_nil hl
      rw [List.foldl_cons, List.foldl_cons, swapRandom_run, swapRandom_run]
      have hmap : (swapRandom rand (l.map f) n).1 = (swapRandom rand l n).1.map f :=
        swapRandom_map f n hl
      rw [swapRandom_run, swapRandom_run] at hmap
      dsimp only at hmap
      rw [hmap]
      rw [swapRandom_run] at hne
      exact ih (n + 2) hne

/-! ## The order of a shuffle -/

variable (rand) in
/-- The positions of `k` elements in the order that a shuffle from draw number `n` on leaves. -/
def orderAt (n k : ℕ) : List ℕ := shuffleAt rand n (List.range' 1 k)

/-- A list is the elements at its positions. -/
theorem map_nth_range' (l : List α) : (List.range' 1 l.length).map (fun i => nth i l) = l := by
  apply List.ext_getElem
  · simp
  · intro i _ hi
    rw [List.getElem_map, List.getElem_range', Nat.one_mul, Nat.add_comm 1 i, nth_succ]
    exact List.getD_eq_getElem _ _ hi

/-- A shuffle ends at the positions of the list. -/
theorem nth_orderAt {n k i : ℕ} (hpos : 0 < i) (hle : i ≤ k) :
    0 < nth i (orderAt rand n k) ∧ nth i (orderAt rand n k) ≤ k := by
  have hmem : nth i (orderAt rand n k) ∈ List.range' 1 k := by
    apply mem_of_mem_shuffleAt
    apply nth_mem hpos
    simpa [orderAt] using hle
  rw [List.mem_range'_1] at hmem
  omega

theorem nth_shuffleAt {n i : ℕ} {l : List α} (hpos : 0 < i) (hle : i ≤ l.length) :
    nth i (shuffleAt rand n l) = nth (nth i (orderAt rand n l.length)) l := by
  have hne : List.range' 1 l.length ≠ [] := by
    intro h
    rw [List.range'_eq_nil_iff] at h
    omega
  have hmap : shuffleAt rand n l = (orderAt rand n l.length).map (fun i => nth i l) := by
    rw [orderAt, ← shuffleAt_map _ n hne, map_nth_range']
  rw [hmap]
  apply nth_map hpos
  simpa [orderAt] using hle

end FactoryHub.Clips
