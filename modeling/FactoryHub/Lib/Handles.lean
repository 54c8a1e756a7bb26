import Mathlib.Data.List.Basic

/-!
# Handles

A store that gives out handles on objects and takes them back. A program that uses a handle that is
not live has no result.

* `EndsIn P x Q` — the program `x` has a result from the states that meet `P`, and ends in `Q`.
* `Builds x m` — it makes a handle on `m`, and the others are as before.
* `Fills f m m'` — it turns the object of a handle from `m` to `m'`.
* `Grows` — a store with more handles, on these objects; what a program leaks is told with it.
-/

namespace FactoryHub.Lib

/-- The live handles with their objects, newest first, and the next handle to give out. -/
@[ext]
structure Handles (M : Type) where
  next : ℕ := 0
  live : List (ℕ × M) := []
  fresh : ∀ p ∈ live, p.1 < next := by simp

variable {M α β ι : Type}

/-! ## Programs -/

/-- A program that may misuse a handle, and has no result then. -/
abbrev HandleProgram (M α : Type) := StateT (Handles M) Option α

namespace Handles

/-- The object of a live handle. -/
def object (H : Handles M) (h : ℕ) : Option M := H.live.lookup h

/-- A new handle. -/
def alloc (m : M) (H : Handles M) : Handles M where
  next := H.next + 1
  live := (H.next, m) :: H.live
  fresh := by
    intro p hp
    rcases List.mem_cons.mp hp with rfl | hp
    · exact Nat.lt_succ_self _
    · exact Nat.lt_succ_of_lt (H.fresh p hp)

/-- Another object for a handle. -/
def put (h : ℕ) (m : M) (H : Handles M) : Handles M where
  next := H.next
  live := H.live.map fun p => if p.1 = h then (h, m) else p
  fresh := by
    intro p hp
    obtain ⟨q, hq, rfl⟩ := List.mem_map.mp hp
    have hlt := H.fresh q hq
    split
    · next heq => simpa [heq] using hlt
    · exact hlt

/-- The handle is taken back. -/
def drop (h : ℕ) (H : Handles M) : Handles M where
  next := H.next
  live := H.live.filter fun p => p.1 ≠ h
  fresh := fun p hp => H.fresh p (List.mem_of_mem_filter hp)

end Handles

namespace HandleProgram

def new (m : M) : HandleProgram M ℕ := fun H => some (H.next, H.alloc m)

def read (h : ℕ) : HandleProgram M M := fun H => (H.object h).map fun m => (m, H)

def write (h : ℕ) (m : M) : HandleProgram M Unit :=
  fun H => (H.object h).map fun _ => ((), H.put h m)

def delete (h : ℕ) : HandleProgram M Unit := fun H => (H.object h).map fun _ => ((), H.drop h)

end HandleProgram

/-! ## Programs without misuse -/

/-- From states that meet `P` the program has a result, and ends in `Q`. -/
def EndsIn (P : Handles M → Prop) (x : HandleProgram M α) (Q : α → Handles M → Prop) : Prop :=
  ∀ H, P H → ∃ a H', x H = some (a, H') ∧ Q a H'

namespace EndsIn

variable {P : Handles M → Prop} {Q : α → Handles M → Prop} {R : β → Handles M → Prop}
  {x : HandleProgram M α} {f : α → HandleProgram M β}

theorem pure {a : α} (h : ∀ H, P H → Q a H) : EndsIn P (Pure.pure a : HandleProgram M α) Q :=
  fun H hH => ⟨a, H, rfl, h H hH⟩

theorem bind (hx : EndsIn P x Q) (hf : ∀ a, EndsIn (Q a) (f a) R) : EndsIn P (x >>= f) R := by
  intro H hH
  obtain ⟨a, H', hrun, hQ⟩ := hx H hH
  obtain ⟨b, H'', hrun', hR⟩ := hf a H' hQ
  refine ⟨b, H'', ?_, hR⟩
  show (x H).bind (fun p => f p.1 p.2) = _
  rw [hrun]
  exact hrun'

theorem mono {P' : Handles M → Prop} {Q' : α → Handles M → Prop} (h : EndsIn P x Q)
    (hP : ∀ H, P' H → P H) (hQ : ∀ a H, Q a H → Q' a H) : EndsIn P' x Q' := by
  intro H hH
  obtain ⟨a, H', hrun, hpost⟩ := h H (hP H hH)
  exact ⟨a, H', hrun, hQ a H' hpost⟩

theorem read {h : ℕ} {m : M} (hm : ∀ H, P H → H.object h = some m) :
    EndsIn P (HandleProgram.read h) fun a H => a = m ∧ P H := by
  intro H hH
  refine ⟨m, H, ?_, rfl, hH⟩
  simp [HandleProgram.read, hm H hH]

/-- What comes after a look at an object. -/
theorem bind_read {h : ℕ} {m : M} {f : M → HandleProgram M β}
    (hm : ∀ H, P H → H.object h = some m) (hf : EndsIn P (f m) R) :
    EndsIn P (HandleProgram.read h >>= f) R := by
  refine (read hm).bind fun a => ?_
  rintro H ⟨rfl, hH⟩
  exact hf H hH

theorem write {h : ℕ} {m m' : M} {R : Handles M → Prop} (hm : ∀ H, P H → H.object h = some m)
    (hR : ∀ H, P H → R (H.put h m')) : EndsIn P (HandleProgram.write h m') fun _ => R := by
  intro H hH
  refine ⟨(), H.put h m', ?_, hR H hH⟩
  simp [HandleProgram.write, hm H hH]

theorem delete {h : ℕ} {m : M} {R : Handles M → Prop} (hm : ∀ H, P H → H.object h = some m)
    (hR : ∀ H, P H → R (H.drop h)) : EndsIn P (HandleProgram.delete h) fun _ => R := by
  intro H hH
  refine ⟨(), H.drop h, ?_, hR H hH⟩
  simp [HandleProgram.delete, hm H hH]

/-- What comes after a program with a known value. -/
theorem bind_eq {a : α} {S : Handles M → Prop} (hx : EndsIn P x fun b H => b = a ∧ S H)
    (hf : EndsIn S (f a) R) : EndsIn P (x >>= f) R := by
  refine hx.bind fun b => ?_
  rintro H ⟨rfl, hH⟩
  exact hf H hH

theorem mapM {f : ι → HandleProgram M α} {g : ι → α} (l : List ι)
    (h : ∀ i, EndsIn P (f i) fun a H => a = g i ∧ P H) :
    EndsIn P (l.mapM f) fun as H => as = l.map g ∧ P H := by
  induction l with
  | nil => exact pure fun H hH => ⟨rfl, hH⟩
  | cons i l ih =>
      rw [List.mapM_cons]
      refine (h i).bind_eq ?_
      refine ih.bind_eq ?_
      exact pure fun H hH => ⟨rfl, hH⟩

end EndsIn

/-! ## One handle more -/

namespace Handles

variable {H₀ H H' : Handles M} {h h' : ℕ} {m m' m₁ : M}

/-- A new handle is there, and the others are as they were. -/
structure Owns (H₀ : Handles M) (h : ℕ) (m : M) (H : Handles M) : Prop where
  live : H.live = (h, m) :: H₀.live
  fresh : H₀.next ≤ h

theorem object_eq_none (hle : H.next ≤ h) : H.object h = none := by
  rw [object, List.lookup_eq_none_iff]
  intro p hp
  have hlt := H.fresh p hp
  simpa using (show h ≠ p.1 by omega)

theorem owns_alloc (m : M) (H : Handles M) : H.Owns H.next m (H.alloc m) := ⟨rfl, Nat.le_refl _⟩

namespace Owns

theorem lt_next (hown : H₀.Owns h m H) : h < H.next := by
  apply H.fresh (h, m)
  simp [hown.live]

theorem object_eq (hown : H₀.Owns h m H) : H.object h = some m := by
  simp [object, hown.live]

theorem object_of_lt (hown : H₀.Owns h m H) (hlt : h' < H₀.next) : H.object h' = H₀.object h' := by
  have hne : (h' == h) = false := by
    have hfresh := hown.fresh
    simpa using (show h' ≠ h by omega)
  simp [object, hown.live, List.lookup_cons, hne]

/-- The other handles have smaller numbers. -/
theorem forall_ne (hown : H₀.Owns h m H) : ∀ p ∈ H₀.live, p.1 ≠ h := by
  intro p hp
  have hlt := H₀.fresh p hp
  have hfresh := hown.fresh
  omega

theorem put (hown : H₀.Owns h m H) : H₀.Owns h m' (H.put h m') := by
  refine ⟨?_, hown.fresh⟩
  have hrest : H₀.live.map (fun p => if p.1 = h then (h, m') else p) = H₀.live := by
    rw [List.map_congr_left fun p hp => if_neg (hown.forall_ne p hp), List.map_id']
  simp [Handles.put, hown.live, hrest]

theorem drop (hown : H₀.Owns h m H) : (H.drop h).live = H₀.live := by
  simpa [Handles.drop, hown.live] using hown.forall_ne

/-- The handle below goes through while the one above is taken back. -/
theorem drop_put (hown : H₀.Owns h m H) (hown' : H.Owns h' m₁ H') :
    H₀.Owns h m' ((H'.put h m').drop h') := by
  have hlt := hown.lt_next
  have hne : h' ≠ h := by
    have hfresh := hown'.fresh
    omega
  refine ⟨?_, hown.fresh⟩
  have hrest : H₀.live.map (fun p => if p.1 = h then (h, m') else p) = H₀.live := by
    rw [List.map_congr_left fun p hp => if_neg (hown.forall_ne p hp), List.map_id']
  have hkeep : ∀ p ∈ H₀.live, p.1 ≠ h' := by
    intro p hp
    apply hown'.forall_ne
    simp [hown.live, hp]
  simpa [Handles.put, Handles.drop, hown'.live, hown.live, hrest, hne, Ne.symm hne] using hkeep

end Owns

end Handles

open Handles

/-- The program makes a handle, from the states that meet `P`. -/
def Builds (P : Handles M → Prop) (x : HandleProgram M ℕ) (m : M) : Prop :=
  ∀ H₀, P H₀ → EndsIn (fun H => H = H₀) x fun h H => H₀.Owns h m H

/-- The program changes the object of a handle that is newer than the others. -/
def Fills (f : ℕ → HandleProgram M Unit) (m m' : M) : Prop :=
  ∀ (H₀ : Handles M) h, EndsIn (H₀.Owns h m) (f h) fun _ => H₀.Owns h m'

/-- The rest of a program that makes a handle. -/
def Finishes (h : ℕ) (m : M) (x : HandleProgram M ℕ) (m' : M) : Prop :=
  ∀ H₀ : Handles M, EndsIn (H₀.Owns h m) x fun h' H => h' = h ∧ H₀.Owns h m' H

/-- The program takes an object over from another handle. -/
def Consumes (c : ℕ → ℕ → HandleProgram M Unit) (m m₁ m' : M) : Prop :=
  ∀ (H₀ H₁ : Handles M) h h', H₀.Owns h m H₁ →
    EndsIn (H₁.Owns h' m₁) (c h h') fun _ => H₀.Owns h m'

section

variable {P : Handles M → Prop} {x : HandleProgram M ℕ} {f g : ℕ → HandleProgram M Unit}
  {m m' m'' m₁ : M}

theorem builds_new (m : M) : Builds P (HandleProgram.new m) m := by
  rintro H₀ - H rfl
  exact ⟨H.next, H.alloc m, rfl, owns_alloc m H⟩

theorem Builds.finish {k : ℕ → HandleProgram M ℕ} (hx : Builds P x m)
    (hk : ∀ h, Finishes h m (k h) m') : Builds P (x >>= k) m' := by
  intro H₀ hP
  refine (hx H₀ hP).bind fun h => ?_
  refine (hk h H₀).mono (fun _ hH => hH) ?_
  rintro h' H ⟨rfl, hH⟩
  exact hH

theorem Fills.finish {h : ℕ} {k : HandleProgram M ℕ} (hf : Fills f m m')
    (hk : Finishes h m' k m'') : Finishes h m (f h >>= fun _ => k) m'' :=
  fun H₀ => (hf H₀ h).bind fun _ => hk H₀

/-- An object is built and taken over. -/
theorem Consumes.finish {c : ℕ → ℕ → HandleProgram M Unit} {h : ℕ} {k : HandleProgram M ℕ}
    (hx : Builds (fun _ => True) x m₁) (hc : Consumes c m m₁ m') (hk : Finishes h m' k m'') :
    Finishes h m (x >>= fun h' => c h h' >>= fun _ => k) m'' := by
  intro H₀ H hown
  refine ((hx H trivial).bind fun h' => ?_) H rfl
  exact (hc H₀ H h h' hown).bind fun _ => hk H₀

theorem finishes_return {h : ℕ} : Finishes h m (pure h) m :=
  fun _ => .pure fun _ hH => ⟨rfl, hH⟩

/-- The handle above is deleted once the one below has another object. -/
theorem endsIn_write_delete {H₀ H₁ : Handles M} {h h' : ℕ} (hown : H₀.Owns h m H₁) :
    EndsIn (H₁.Owns h' m₁) (do HandleProgram.write h m'; HandleProgram.delete h')
      fun _ => H₀.Owns h m' := by
  have hobject : ∀ H, H₁.Owns h' m₁ H → H.object h = some m := by
    intro H hH
    rw [hH.object_of_lt hown.lt_next, hown.object_eq]
  have hwrite : EndsIn (H₁.Owns h' m₁) (HandleProgram.write h m')
      fun _ H' => ∃ H, H₁.Owns h' m₁ H ∧ H' = H.put h m' :=
    EndsIn.write hobject fun H hH => ⟨H, hH, rfl⟩
  refine hwrite.bind fun _ => ?_
  refine EndsIn.delete (m := m₁) ?_ ?_
  · rintro H' ⟨H, hH, rfl⟩
    have hne : h' ≠ h := by
      have hlt := hown.lt_next
      have hfresh := hH.fresh
      omega
    simp [object, Handles.put, hH.live, hne]
  · rintro H' ⟨H, hH, rfl⟩
    exact hown.drop_put hH

/-- The object is built further before it is taken over. -/
theorem Consumes.fill {c : ℕ → ℕ → HandleProgram M Unit} {m₂ : M} (hf : Fills f m₁ m₂)
    (hc : Consumes c m m₂ m') : Consumes (fun h h' => do f h'; c h h') m m₁ m' :=
  fun H₀ H₁ h h' hown => (hf H₁ h').bind fun _ => hc H₀ H₁ h h' hown

namespace Fills

theorem skip (m : M) : Fills (fun _ => pure ()) m m := fun _ _ => .pure fun _ hH => hH

theorem seq (hf : Fills f m m') (hg : Fills g m' m'') : Fills (fun h => do f h; g h) m m'' :=
  fun H₀ h => (hf H₀ h).bind fun _ => hg H₀ h

/-- An object is built for it. -/
theorem consume {x : ℕ → HandleProgram M ℕ} {c : ℕ → ℕ → HandleProgram M Unit}
    (hx : ∀ h, Builds (fun H => H.object h = some m) (x h) m₁) (hc : Consumes c m m₁ m') :
    Fills (fun h => do c h (← x h)) m m' := by
  intro H₀ h H hH
  exact ((hx h H hH.object_eq).bind fun h' => hc H₀ H h h' hH) H rfl

end Fills

end

/-! ## More handles -/

namespace Handles

variable {H₀ H H' : Handles M} {h : ℕ} {m : M} {left left' : List M}

/-- There are more handles, on the objects `left`, oldest first. -/
def Grows (left : List M) (H₀ H : Handles M) : Prop :=
  H₀.next ≤ H.next ∧
    ∃ new, H.live = new ++ H₀.live ∧ new.map Prod.snd = left.reverse ∧ ∀ p ∈ new, H₀.next ≤ p.1

theorem Grows.refl (H : Handles M) : Grows [] H H := ⟨Nat.le_refl _, [], by simp⟩

theorem Grows.trans (h₁ : Grows left H₀ H) (h₂ : Grows left' H H') : Grows (left ++ left') H₀ H' := by
  obtain ⟨hnext, new, hlive, hleft, hnew⟩ := h₁
  obtain ⟨hnext', new', hlive', hleft', hnew'⟩ := h₂
  refine ⟨Nat.le_trans hnext hnext', new' ++ new, ?_, ?_, ?_⟩
  · simp [hlive', hlive]
  · simp [hleft, hleft']
  · intro p hp
    rcases List.mem_append.mp hp with hp | hp
    · exact Nat.le_trans hnext (hnew' p hp)
    · exact hnew p hp

/-- The handles that were there are there still. -/
theorem Grows.object_eq (hgrows : Grows left H₀ H) (hm : H₀.object h = some m) :
    H.object h = some m := by
  obtain ⟨-, new, hlive, -, hnew⟩ := hgrows
  have hlt : h < H₀.next := by
    by_contra hge
    rw [object_eq_none (by omega)] at hm
    cases hm
  have hnone : new.lookup h = none := by
    rw [List.lookup_eq_none_iff]
    intro p hp
    have hle := hnew p hp
    simpa using (show h ≠ p.1 by omega)
  simpa [object, hlive, List.lookup_append, hnone] using hm

theorem Owns.grows (hown : H₀.Owns h m H) : Grows [m] H₀ H := by
  have hlt := hown.lt_next
  have hfresh := hown.fresh
  exact ⟨by omega, [(h, m)], by simp [hown.live], rfl, by simpa using hfresh⟩

theorem Owns.grows_drop (hown : H₀.Owns h m H) : Grows [] H₀ (H.drop h) := by
  have hlt := hown.lt_next
  have hfresh := hown.fresh
  have hnext : (H.drop h).next = H.next := rfl
  exact ⟨by omega, [], by simp [hown.drop]⟩

end Handles

/-- What holds still when there are more handles. -/
def Stable (P : Handles M → Prop) : Prop := ∀ H H' left, Grows left H H' → P H → P H'

theorem stable_true : Stable fun _ : Handles M => True := fun _ _ _ _ _ => trivial

theorem stable_object (h : ℕ) (m : M) : Stable fun H => H.object h = some m :=
  fun _ _ _ hgrows hm => hgrows.object_eq hm

/-- The program leaves handles on these objects behind, from the states that meet `P`, and ends in
`Q`. -/
def LeaksTo (P : Handles M → Prop) (x : HandleProgram M α) (left : List M)
    (Q : α → Handles M → Prop) : Prop :=
  ∀ H₀, P H₀ → EndsIn (fun H => H = H₀) x fun a H => Grows left H₀ H ∧ Q a H

/-- The program leaves handles on these objects behind, from the states that meet `P`. -/
def Leaks (P : Handles M → Prop) (x : HandleProgram M α) (left : List M) : Prop :=
  LeaksTo P x left fun _ _ => True

namespace Leaks

variable {P : Handles M → Prop} {Q : α → Handles M → Prop} {x : HandleProgram M α}
  {f : α → HandleProgram M β} {left left' : List M} {m : M}

theorem mono {P' : Handles M → Prop} (h : Leaks P x left) (hP : ∀ H, P' H → P H) : Leaks P' x left :=
  fun H₀ h₀ => h H₀ (hP H₀ h₀)

theorem pure (a : α) : Leaks P (Pure.pure a : HandleProgram M α) [] := by
  intro H₀ _
  refine .pure ?_
  rintro H rfl
  exact ⟨.refl H, trivial⟩

/-- The rest starts with what the first part leaves, and with the handles that were there before. -/
theorem bind_of (hP : Stable P) (hx : LeaksTo P x left Q)
    (hf : ∀ a, Leaks (fun H => P H ∧ Q a H) (f a) left') :
    Leaks P (x >>= f) (left ++ left') := by
  intro H₀ h₀
  refine (hx H₀ h₀).bind fun a => ?_
  rintro H ⟨hgrows, hQ⟩
  obtain ⟨b, H', hrun, hgrows', -⟩ := hf a H ⟨hP H₀ H left hgrows h₀, hQ⟩ H rfl
  exact ⟨b, H', hrun, hgrows.trans hgrows', trivial⟩

theorem bind (hP : Stable P) (hx : Leaks P x left) (hf : ∀ a, Leaks P (f a) left') :
    Leaks P (x >>= f) (left ++ left') :=
  bind_of hP hx fun a => (hf a).mono fun _ hH => hH.1

/-- The first part leaves nothing. -/
theorem bind_nil (hP : Stable P) (hx : Leaks P x []) (hf : ∀ a, Leaks P (f a) left) :
    Leaks P (x >>= f) left := bind hP hx hf

/-- The rest leaves nothing. -/
theorem bind_of_nil (hP : Stable P) (hx : LeaksTo P x left Q)
    (hf : ∀ a, Leaks (fun H => P H ∧ Q a H) (f a) []) : Leaks P (x >>= f) left := by
  rw [← List.append_nil left]
  exact bind_of hP hx hf

theorem bind_return {g : α → β} (hx : LeaksTo P x left Q) :
    Leaks P (x >>= fun a => Pure.pure (g a)) left := by
  intro H₀ h₀
  refine (hx H₀ h₀).bind fun a => ?_
  exact .pure fun H hH => ⟨hH.1, trivial⟩

/-- What comes after a look at an object. -/
theorem bind_read {h : ℕ} {f : M → HandleProgram M β} (hm : ∀ H, P H → H.object h = some m)
    (hf : Leaks P (f m) left) : Leaks P (HandleProgram.read h >>= f) left := by
  intro H₀ h₀
  apply EndsIn.bind_read (m := m)
  · rintro H rfl
    exact hm H h₀
  · exact hf H₀ h₀

theorem forM {f : ι → HandleProgram M PUnit} (hP : Stable P) (left : ι → List M) (l : List ι)
    (h : ∀ i ∈ l, Leaks P (f i) (left i)) : Leaks P (l.forM f) (l.flatMap left) := by
  induction l with
  | nil => exact pure _
  | cons i l ih =>
      have hl := ih fun j hj => h j (List.mem_cons_of_mem i hj)
      exact bind hP (h i List.mem_cons_self) fun _ => hl

end Leaks

namespace LeaksTo

variable {P : Handles M → Prop} {Q : α → Handles M → Prop} {f : ι → HandleProgram M α}

/-- What the earlier programs of a list leave is there still after the later ones. -/
theorem mapM (hP : Stable P) (hQ : ∀ a, Stable (Q a)) (left : ι → List M) (l : List ι)
    (h : ∀ i ∈ l, LeaksTo P (f i) (left i) Q) :
    LeaksTo P (l.mapM f) (l.flatMap left) fun as H => ∀ a ∈ as, Q a H := by
  induction l with
  | nil =>
      rintro H₀ -
      refine .pure ?_
      rintro H rfl
      exact ⟨.refl H, by simp⟩
  | cons i l ih =>
      intro H₀ h₀
      rw [List.mapM_cons]
      refine (h i List.mem_cons_self H₀ h₀).bind fun a => ?_
      rintro H ⟨hgrows, ha⟩
      have hl := ih (fun j hj => h j (List.mem_cons_of_mem i hj)) H (hP H₀ H _ hgrows h₀)
      refine (hl.bind fun as => .pure ?_) H rfl
      rintro H' ⟨hgrows', has⟩
      refine ⟨hgrows.trans hgrows', ?_⟩
      intro b hb
      rcases List.mem_cons.mp hb with rfl | hb
      · exact hQ b H H' _ hgrows' ha
      · exact has b hb

end LeaksTo

/-- What is built stays. -/
theorem Builds.leaks {P : Handles M → Prop} {x : HandleProgram M ℕ} {m : M} (hx : Builds P x m) :
    LeaksTo P x [m] fun h H => H.object h = some m :=
  fun H₀ h₀ => (hx H₀ h₀).mono (fun _ h => h) fun _ _ hown => ⟨hown.grows, hown.object_eq⟩

end FactoryHub.Lib
