import Mathlib.Data.List.Basic

/-!
# State machines with entry and exit actions

A `StateMachine` has, for each state, a list of transitions (an input and the state it leads to)
and actions on some data that run when a state is left, entered or updated. An update may raise
an input. The first transition for an input is taken; an input without one is ignored.

* `processEvent_cases` — an input is ignored or leads along a transition.
* `update_cases` — the same for an update, after its action.
-/

namespace FactoryHub.Lib

/-- States `N`, inputs `E` and the data `σ` the actions work on. -/
structure StateMachine (N E σ : Type) where
  transitions : N → List (E × N)
  /-- `onExit n next` runs when `n` is left for `next`. -/
  onExit : N → N → σ → σ
  /-- `onEnter n prev` runs when `n` is entered from `prev`. -/
  onEnter : N → N → σ → σ
  onUpdate : N → σ → σ × Option E

/-- Where a machine stands. -/
structure Config (N σ : Type) where
  current : N
  previous : Option N
  data : σ

namespace StateMachine

variable {N E σ : Type} (m : StateMachine N E σ)

/-- Leave the current state for `n`. -/
def setState (n : N) (c : Config N σ) : Config N σ :=
  { current := n
    previous := some c.current
    data := m.onEnter n c.current (m.onExit c.current n c.data) }

@[simp] theorem setState_current (n : N) (c : Config N σ) : (m.setState n c).current = n := rfl

variable [DecidableEq E]

/-- Where an input leads. -/
def next (n : N) (e : E) : Option N :=
  ((m.transitions n).find? (fun t => t.1 = e)).map Prod.snd

/-- Take the transition for an input, if there is one. -/
def processEvent (e : E) (c : Config N σ) : Config N σ :=
  match m.next c.current e with
  | some n => m.setState n c
  | none => c

/-- Update the current state, and process what it raises. -/
def update (c : Config N σ) : Config N σ :=
  let (data, raised) := m.onUpdate c.current c.data
  match raised with
  | some e => m.processEvent e { c with data }
  | none => { c with data }

variable {m}

theorem mem_of_next {n n' : N} {e : E} (h : m.next n e = some n') :
    (e, n') ∈ m.transitions n := by
  obtain ⟨t, hfind, rfl⟩ := Option.map_eq_some_iff.mp h
  have hmem := List.mem_of_find?_eq_some hfind
  have he : t.1 = e := by simpa using List.find?_some hfind
  rw [← he]
  exact hmem

theorem processEvent_of_next {e : E} {c : Config N σ} {n : N} (h : m.next c.current e = some n) :
    m.processEvent e c = m.setState n c := by
  unfold processEvent
  rw [h]

/-- An input is ignored, or leads along one of the transitions for it. -/
theorem processEvent_cases (e : E) (c : Config N σ) :
    m.processEvent e c = c ∨
      ∃ n, (e, n) ∈ m.transitions c.current ∧ m.processEvent e c = m.setState n c := by
  unfold processEvent
  split
  · next n h => exact Or.inr ⟨n, mem_of_next h, rfl⟩
  · exact Or.inl rfl

theorem update_of_raised {c : Config N σ} {d : σ} {e : E}
    (h : m.onUpdate c.current c.data = (d, some e)) :
    m.update c = m.processEvent e { c with data := d } := by
  unfold update
  rw [h]

theorem update_of_none {c : Config N σ} {d : σ} (h : m.onUpdate c.current c.data = (d, none)) :
    m.update c = { c with data := d } := by
  unfold update
  rw [h]

/-- An update runs the update action, and then leads along one of the transitions for what it
raises or nowhere. -/
theorem update_cases (c : Config N σ) :
    m.update c = { c with data := (m.onUpdate c.current c.data).1 } ∨
      ∃ e n, (m.onUpdate c.current c.data).2 = some e ∧ (e, n) ∈ m.transitions c.current ∧
        m.update c = m.setState n { c with data := (m.onUpdate c.current c.data).1 } := by
  cases hraised : m.onUpdate c.current c.data with
  | mk d raised =>
      cases raised with
      | none => exact Or.inl (update_of_none hraised)
      | some e =>
          -- there may be no transition for what is raised
          rw [update_of_raised hraised]
          rcases processEvent_cases (m := m) e { c with data := d } with hsame | ⟨n, hn, hset⟩
          · exact Or.inl hsame
          · exact Or.inr ⟨e, n, rfl, hn, hset⟩

end StateMachine

end FactoryHub.Lib
