import FactoryHub.Lib.Run
import Mathlib.Logic.Function.Basic
import Mathlib.Logic.Relation

/-!
# Threads that lock mutexes

Threads run programs over a shared state. A program locks and unlocks mutexes, updates the shared
state, branches on questions about it, and may call functions, any of them and any number of times.

A program is *disciplined* when it locks a mutex only while those it holds are of lower rank, on the
branches it is allowed to take.

* `Prog.Obeys.seq` — a disciplined call in a disciplined program.
* `Threads.Safe.moves`, `Threads.safe_of_run` — threads with disciplined programs stay so.
* `Threads.Safe.not_cycle` — and then no threads wait for each other.
-/

namespace FactoryHub.Lib

/-- What a thread still has to do, over mutexes `M`, updates `U` and questions `Q`. -/
inductive Prog (M U Q : Type) where
  | done
  | lock (m : M) (k : Prog M U Q)
  | unlock (m : M) (k : Prog M U Q)
  | update (u : U) (k : Prog M U Q)
  | test (q : Q) (yes no : Prog M U Q)
  /-- Functions are called, any of them and any number of times. -/
  | calls (k : Prog M U Q)

variable {M U Q S E F T : Type}

/-- One program after the other. -/
def Prog.seq : Prog M U Q → Prog M U Q → Prog M U Q
  | .done, p => p
  | .lock m k, p => .lock m (k.seq p)
  | .unlock m k, p => .unlock m (k.seq p)
  | .update u k, p => .update u (k.seq p)
  | .test q yes no, p => .test q (yes.seq p) (no.seq p)
  | .calls k, p => .calls (k.seq p)

/-- The programs of the entry points `E`, of which some start in a state only, and of the functions
`F` that programs call. -/
structure Threads (M U Q S E F : Type) where
  recursive : M → Bool
  apply : U → S → S
  answer : Q → S → Bool
  starts : E → S → Bool
  entry : E → Prog M U Q
  callee : F → Prog M U Q

namespace Threads

/-- The shared state, what each thread has to do and the mutexes it holds. -/
structure Config (M U Q S T : Type) where
  shared : S
  prog : T → Prog M U Q := fun _ => .done
  held : T → List M := fun _ => []

inductive Act (E F T : Type) where
  | start (t : T) (e : E)
  | call (t : T) (f : F)
  | go (t : T)

variable [DecidableEq M] [DecidableEq T]

/-- The thread `t` goes on with `p`. -/
def Config.goOn (c : Config M U Q S T) (t : T) (p : Prog M U Q) : Config M U Q S T :=
  { c with prog := Function.update c.prog t p }

/-- A thread takes a step. It takes a mutex only if no other thread holds it. -/
inductive Moves (sys : Threads M U Q S E F) :
    Config M U Q S T → Act E F T → Config M U Q S T → Prop
  | start {c t e} : c.prog t = .done → sys.starts e c.shared = true →
      Moves sys c (.start t e) (c.goOn t (sys.entry e))
  | lock {c t m k} : c.prog t = .lock m k →
      (∀ t', m ∈ c.held t' → t' = t ∧ sys.recursive m = true) →
      Moves sys c (.go t) { c.goOn t k with held := Function.update c.held t (m :: c.held t) }
  | unlock {c t m k} : c.prog t = .unlock m k →
      Moves sys c (.go t) { c.goOn t k with held := Function.update c.held t ((c.held t).erase m) }
  | update {c t u k} : c.prog t = .update u k →
      Moves sys c (.go t) { c.goOn t k with shared := sys.apply u c.shared }
  | test {c t q yes no} : c.prog t = .test q yes no →
      Moves sys c (.go t) (c.goOn t (if sys.answer q c.shared then yes else no))
  | call {c t k} (f : F) : c.prog t = .calls k →
      Moves sys c (.call t f) (c.goOn t ((sys.callee f).seq (.calls k)))
  | returns {c t k} : c.prog t = .calls k → Moves sys c (.go t) (c.goOn t k)

/-- The thread is at a mutex. -/
def Config.Wants (c : Config M U Q S T) (t : T) (m : M) : Prop := ∃ k, c.prog t = .lock m k

/-- The thread `t` is at a mutex that another one holds. -/
def Config.WaitsFor (c : Config M U Q S T) (t t' : T) : Prop :=
  t' ≠ t ∧ ∃ m, c.Wants t m ∧ m ∈ c.held t'

end Threads

/-! ## Discipline -/

/-- The order in which mutexes are taken, the answers on which programs may branch, and the mutexes
that may be held while functions are called. -/
structure Discipline (M Q : Type) where
  rank : M → ℕ
  allowed : Q → Bool → Prop
  callable : List M → Prop

variable [DecidableEq M]

/-- From where the mutexes `held` are held, the program keeps the order, and it ends with mutexes
that meet `post`. -/
def Prog.Obeys (d : Discipline M Q) (recursive : M → Bool) :
    Prog M U Q → List M → (List M → Prop) → Prop
  | .done, held, post => post held
  | .lock m k, held, post =>
      ((m ∈ held ∧ recursive m = true) ∨ ∀ m' ∈ held, d.rank m' < d.rank m) ∧
        k.Obeys d recursive (m :: held) post
  | .unlock m k, held, post => k.Obeys d recursive (held.erase m) post
  | .update _ k, held, post => k.Obeys d recursive held post
  | .test q yes no, held, post =>
      (d.allowed q true → yes.Obeys d recursive held post) ∧
        (d.allowed q false → no.Obeys d recursive held post)
  | .calls k, held, post => d.callable held ∧ k.Obeys d recursive held post

namespace Prog.Obeys

variable {d : Discipline M Q} {recursive : M → Bool} {p k : Prog M U Q} {held : List M}
  {post post' : List M → Prop}

theorem seq (h : p.Obeys d recursive held fun held => k.Obeys d recursive held post) :
    (p.seq k).Obeys d recursive held post := by
  induction p generalizing held with
  | done => exact h
  | lock m p ih => exact ⟨h.1, ih h.2⟩
  | unlock m p ih => exact ih h
  | update u p ih => exact ih h
  | test q yes no ihYes ihNo => exact ⟨fun hyes => ihYes (h.1 hyes), fun hno => ihNo (h.2 hno)⟩
  | calls p ih => exact ⟨h.1, ih h.2⟩

theorem mono (h : p.Obeys d recursive held post) (hpost : ∀ held, post held → post' held) :
    p.Obeys d recursive held post' := by
  induction p generalizing held with
  | done => exact hpost held h
  | lock m p ih => exact ⟨h.1, ih h.2⟩
  | unlock m p ih => exact ih h
  | update u p ih => exact ih h
  | test q yes no ihYes ihNo => exact ⟨fun hyes => ihYes (h.1 hyes), fun hno => ihNo (h.2 hno)⟩
  | calls p ih => exact ⟨h.1, ih h.2⟩

end Prog.Obeys

namespace Threads

/-- The programs of all entry points and functions are disciplined. A function ends with the mutexes
it was called with, an entry point with none. -/
structure Disciplined (sys : Threads M U Q S E F) (d : Discipline M Q) : Prop where
  entry : ∀ e, (sys.entry e).Obeys d sys.recursive [] (· = [])
  callee : ∀ f held, d.callable held → (sys.callee f).Obeys d sys.recursive held (· = held)

variable {sys : Threads M U Q S E F} {d : Discipline M Q} {c c' : Config M U Q S T}
  {a : Act E F T}

/-- Each thread is in a disciplined program, and no mutex is held by two of them. -/
structure Safe (sys : Threads M U Q S E F) (d : Discipline M Q) (c : Config M U Q S T) : Prop where
  obeys : ∀ t, (c.prog t).Obeys d sys.recursive (c.held t) (· = [])
  exclusive : ∀ m t t', m ∈ c.held t → m ∈ c.held t' → t = t'

/-- The answer on which the thread branches, if it does, is allowed. -/
def Answers (sys : Threads M U Q S E F) (d : Discipline M Q) (c : Config M U Q S T) :
    Act E F T → Prop
  | .go t => ∀ q yes no, c.prog t = .test q yes no → d.allowed q (sys.answer q c.shared)
  | .start _ _ | .call _ _ => True

/-- Before anything has started. -/
theorem safe_init (shared : S) : Safe (T := T) sys d { shared } where
  obeys _ := rfl
  exclusive _ _ _ hm := nomatch hm

section Moves

variable [DecidableEq T]

/-- The other threads are where they were. -/
theorem Safe.goOn (h : Safe sys d c) (t : T) {p : Prog M U Q} {held : List M}
    (hp : p.Obeys d sys.recursive held (· = [])) (shared : S)
    (hheld : ∀ m ∈ held, m ∈ c.held t ∨ ∀ t', m ∈ c.held t' → t' = t) :
    Safe sys d
      { shared, prog := Function.update c.prog t p, held := Function.update c.held t held } where
  obeys t' := by
    by_cases heq : t' = t
    · subst heq
      simpa using hp
    · simpa [heq] using h.obeys t'
  exclusive m t₁ t₂ h₁ h₂ := by
    -- what the thread holds, no other one does
    have honly : ∀ t', t' ≠ t → m ∈ held → m ∉ c.held t' := by
      intro t' hne hm hm'
      rcases hheld m hm with hmine | hfree
      · exact hne (h.exclusive m t' t hm' hmine)
      · exact hne (hfree t' hm')
    dsimp only at h₁ h₂
    by_cases heq₁ : t₁ = t
    · by_cases heq₂ : t₂ = t
      · rw [heq₁, heq₂]
      · subst heq₁
        rw [Function.update_self] at h₁
        rw [Function.update_of_ne heq₂] at h₂
        exact absurd h₂ (honly t₂ heq₂ h₁)
    · rw [Function.update_of_ne heq₁] at h₁
      by_cases heq₂ : t₂ = t
      · subst heq₂
        rw [Function.update_self] at h₂
        exact absurd h₁ (honly t₁ heq₁ h₂)
      · rw [Function.update_of_ne heq₂] at h₂
        exact h.exclusive m t₁ t₂ h₁ h₂

/-- The same where the thread holds what it held. -/
theorem Safe.goOn_same (h : Safe sys d c) (t : T) {p : Prog M U Q}
    (hp : p.Obeys d sys.recursive (c.held t) (· = [])) (shared : S) :
    Safe sys d { c.goOn t p with shared } := by
  have hsafe := h.goOn t hp shared fun m hm => Or.inl hm
  rwa [Function.update_eq_self] at hsafe

/-- Threads with disciplined programs stay so, as long as they branch on allowed answers. -/
theorem Safe.moves (h : Safe sys d c) (hsys : sys.Disciplined d) (ha : Answers sys d c a)
    (hmoves : Moves sys c a c') : Safe sys d c' := by
  cases hmoves with
  | @start t e hprog _ =>
      have hobeys := h.obeys t
      rw [hprog] at hobeys
      refine h.goOn_same t ?_ c.shared
      rw [show c.held t = [] from hobeys]
      exact hsys.entry e
  | @lock t m k hprog hfree =>
      have hobeys := h.obeys t
      rw [hprog] at hobeys
      refine h.goOn t hobeys.2 c.shared fun m' hm' => ?_
      rcases List.mem_cons.mp hm' with rfl | hm'
      · exact Or.inr fun t' ht' => (hfree t' ht').1
      · exact Or.inl hm'
  | @unlock t m k hprog =>
      have hobeys := h.obeys t
      rw [hprog] at hobeys
      have hk : k.Obeys d sys.recursive ((c.held t).erase m) (· = []) := hobeys
      exact h.goOn t hk c.shared fun m' hm' => Or.inl (List.mem_of_mem_erase hm')
  | @update t u k hprog =>
      have hobeys := h.obeys t
      rw [hprog] at hobeys
      have hk : k.Obeys d sys.recursive (c.held t) (· = []) := hobeys
      exact h.goOn_same t hk (sys.apply u c.shared)
  | @test t q yes no hprog =>
      have hobeys := h.obeys t
      rw [hprog] at hobeys
      have hallowed := ha q yes no hprog
      refine h.goOn_same t ?_ c.shared
      split
      · next hyes =>
        rw [hyes] at hallowed
        exact hobeys.1 hallowed
      · next hno =>
        rw [Bool.not_eq_true] at hno
        rw [hno] at hallowed
        exact hobeys.2 hallowed
  | @call t k f hprog =>
      have hobeys := h.obeys t
      rw [hprog] at hobeys
      refine h.goOn_same t ?_ c.shared
      apply Prog.Obeys.seq
      apply (hsys.callee f _ hobeys.1).mono
      rintro _ rfl
      exact hobeys
  | @returns t k hprog =>
      have hobeys := h.obeys t
      rw [hprog] at hobeys
      exact h.goOn_same t hobeys.2 c.shared

theorem safe_of_run (hsys : sys.Disciplined d) {shared : S}
    {tr : List (Step (Config M U Q S T) (Act E F T))} (hrun : Run (Moves sys) { shared } tr c)
    (hanswers : ∀ u ∈ tr, Answers sys d u.pre u.label) : Safe sys d c := by
  refine Run.invariant_of (safe_init shared) ?_ hrun hanswers
  intro _ _ _ hsafe ha hm
  exact hsafe.moves hsys ha hm

end Moves

/-! ## No cycle -/

/-- A thread that is waited for waits, if at all, for a mutex of higher rank. -/
theorem Safe.rank_lt (h : Safe sys d c) {t' t'' : T} {m m' : M} (hm : m ∈ c.held t')
    (hwants : c.Wants t' m') (hne : t'' ≠ t') (hm' : m' ∈ c.held t'') :
    d.rank m < d.rank m' := by
  obtain ⟨k, hprog⟩ := hwants
  have hobeys := h.obeys t'
  rw [hprog] at hobeys
  rcases hobeys.1 with ⟨hmine, -⟩ | hrank
  · exact absurd (h.exclusive m' t'' t' hm' hmine) hne
  · exact hrank m hm

/-- Along a path of waiting threads the rank of what they wait for grows. -/
theorem Safe.rank_lt_of_path (h : Safe sys d c) {t t' t'' : T} {m m' : M}
    (hpath : Relation.TransGen c.WaitsFor t t') (hm : c.Wants t m) (hm' : c.Wants t' m')
    (hne : t'' ≠ t') (hheld : m' ∈ c.held t'') : d.rank m < d.rank m' := by
  induction hpath generalizing m' t'' with
  | single hwaits =>
      obtain ⟨-, m₁, ⟨k₁, hprog₁⟩, hheld₁⟩ := hwaits
      obtain ⟨k, hprog⟩ := hm
      rw [hprog] at hprog₁
      cases hprog₁
      exact h.rank_lt hheld₁ hm' hne hheld
  | tail _ hwaits ih =>
      obtain ⟨hne₁, m₁, hwants₁, hheld₁⟩ := hwaits
      exact Nat.lt_trans (ih hwants₁ hne₁ hheld₁) (h.rank_lt hheld₁ hm' hne hheld)

/-- Threads with disciplined programs never wait for each other in a circle. -/
theorem Safe.not_cycle (h : Safe sys d c) (t : T) : ¬ Relation.TransGen c.WaitsFor t t := by
  intro hcycle
  obtain ⟨u, ⟨hne, m, hwants, hheld⟩, -⟩ := Relation.TransGen.head'_iff.mp hcycle
  exact Nat.lt_irrefl _ (h.rank_lt_of_path hcycle hwants hwants hne hheld)

end Threads

end FactoryHub.Lib
