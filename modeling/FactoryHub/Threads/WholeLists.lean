import Mathlib.Algebra.Ring.Int.Defs
import Mathlib.Data.List.Nodup
import FactoryHub.Lib.Run
import FactoryHub.Threads.Manager

/-!
# Lists of threads are managed whole

A call of `add` that throws changes nothing, and in every run of calls a list is either run, each of its
threads with all its aspects, or not at all, as long as the threads of the lists that are added can be
started.

* `ThreadManager.lists_whole` — over the runs of calls.
-/

namespace FactoryHub.Threads

open Lib

variable {ι : Type} [DecidableEq ι]

namespace ThreadManager

variable {m m' : ThreadManager ι} {t u : Thread ι} {ts : List (Thread ι)} {aspects : List String}
  {e : Option Exception}

/-! ## Changes of one thread -/

@[simp] theorem modify_inifins {f : ThreadState → ThreadState} : (m.modify t f).inifins = m.inifins := rfl

@[simp] theorem modify_threads {f : ThreadState → ThreadState} : (m.modify t f).threads = m.threads := rfl

@[simp] theorem modify_untimedThreads {f : ThreadState → ThreadState} :
    (m.modify t f).untimedThreads = m.untimedThreads := rfl

@[simp] theorem modify_isSealed {f : ThreadState → ThreadState} :
    (m.modify t f).isSealed = m.isSealed := rfl

theorem state_modify {f : ThreadState → ThreadState} :
    (m.modify t f).state u = if u = t then f (m.state u) else m.state u := by
  by_cases h : u = t
  · subst h
    simp [modify]
  · simp [modify, h]

theorem modify_modify {f g : ThreadState → ThreadState} :
    (m.modify t f).modify t g = m.modify t fun s => g (f s) := by
  simp [modify]

theorem modify_self {f : ThreadState → ThreadState} (h : f (m.state t) = m.state t) : m.modify t f = m := by
  simp [modify, h]

/-- The aspects of a thread are initialized, or finalized again. -/
def holds (n : ℤ) (aspects : List String) (s : ThreadState) : ThreadState :=
  { s with held := fun a => s.held a + n * aspects.count a }

theorem hold_eq {n : ℤ} {aspect : String} : m.hold t n aspect = m.modify t (holds n [aspect]) := by
  rw [hold]
  congr 1
  funext s
  rw [holds]
  congr 1
  funext a
  by_cases h : a = aspect
  · subst h
    simp
  · simp [h, Ne.symm h]

theorem holds_holds {n : ℤ} {as bs : List String} {s : ThreadState} :
    holds n bs (holds n as s) = holds n (as ++ bs) s := by
  simp [holds, List.count_append, mul_add, add_assoc]

theorem foldl_hold {n : ℤ} : aspects.foldl (fun m a => m.hold t n a) m = m.modify t (holds n aspects) := by
  induction aspects generalizing m with
  | nil => exact (modify_self (by simp [holds])).symm
  | cons a aspects ih =>
      rw [List.foldl_cons, ih, hold_eq, modify_modify]
      simp [holds_holds]

/-! ## Aspects -/

theorem initAspects_cases (m : ThreadManager ι) (t : Thread ι) (aspects initialized : List String) :
    (initAspects t aspects initialized m = (m.modify t (holds 1 aspects), none) ∧
        ∀ a ∈ aspects, a ∈ m.inifins) ∨
      ∃ messages, initAspects t aspects initialized m = (m.modify t (holds (-1) initialized),
        some { kind := .cannotInitializeThread, messages }) := by
  induction aspects generalizing m initialized with
  | nil =>
      refine .inl ⟨?_, by simp⟩
      rw [initAspects, modify_self (by simp [holds])]
  | cons a aspects ih =>
      rw [initAspects]
      split
      · exact .inr ⟨_, by rw [foldl_hold]⟩
      · next hknown =>
          rw [not_not] at hknown
          split
          · exact .inr ⟨_, by rw [foldl_hold]⟩
          · rcases ih (m.hold t 1 a) (a :: initialized) with ⟨heq, hall⟩ | ⟨messages, heq⟩
            · refine .inl ⟨?_, List.forall_mem_cons.mpr ⟨hknown, hall⟩⟩
              rw [heq, hold_eq, modify_modify]
              simp [holds_holds]
            · refine .inr ⟨messages, ?_⟩
              rw [heq, hold_eq, modify_modify]
              congr 2
              funext s
              simp only [holds, ThreadState.mk.injEq, true_and]
              funext b
              by_cases hb : b = a
              · subst hb
                simp
              · simp [Ne.symm hb]

/-- The aspects of a thread are initialized, and it is enlisted, or nothing changes. -/
theorem aspectInit_cases (m : ThreadManager ι) (t : Thread ι) :
    (m.aspectInit t = ((m.modify t (holds 1 t.aspects)).enlist t, none) ∧
        ∀ a ∈ t.aspects, a ∈ m.inifins) ∨
      ∃ messages, m.aspectInit t = (m, some { kind := .cannotInitializeThread, messages }) := by
  rw [aspectInit]
  rcases initAspects_cases m t t.aspects [] with ⟨heq, hall⟩ | ⟨messages, heq⟩
  · exact .inl ⟨by rw [heq], hall⟩
  · refine .inr ⟨messages, ?_⟩
    rw [heq, modify_self (by simp [holds])]

theorem finalizeAspects_of_known (h : ∀ a ∈ aspects, a ∈ m.inifins) :
    finalizeAspects t aspects m = (m.modify t (holds (-1) aspects), none) := by
  induction aspects generalizing m with
  | nil => rw [finalizeAspects, modify_self (by simp [holds])]
  | cons a aspects ih =>
      obtain ⟨ha, hall⟩ := List.forall_mem_cons.mp h
      rw [finalizeAspects, if_neg (not_not.mpr ha), @ih (m.hold t (-1) a) hall, hold_eq, modify_modify]
      simp [holds_holds]

/-- The aspects of a thread are known. -/
def Known (m : ThreadManager ι) (t : Thread ι) : Prop := ∀ a ∈ t.aspects, a ∈ m.inifins

theorem aspectFinalize_of_known (h : m.Known t) :
    m.aspectFinalize t = ((m.modify t (holds (-1) t.aspects)).delist t, none) := by
  rw [aspectFinalize, finalizeAspects_of_known h]

omit [DecidableEq ι] in
theorem aspectPrepareFinalize_of_known (h : m.Known t) : m.aspectPrepareFinalize t = none := by
  rw [aspectPrepareFinalize, Option.map_eq_none_iff, List.find?_eq_none]
  simpa using fun a ha => h a ha

/-! ## Lists -/

/-- A thread is initialized, with its aspects. -/
def raise (m : ThreadManager ι) (t : Thread ι) : ThreadManager ι :=
  (m.modify t fun s => { holds 1 t.aspects s with inits := s.inits + 1 }).enlist t

/-- A thread is finalized, with its aspects. -/
def lower (m : ThreadManager ι) (t : Thread ι) : ThreadManager ι :=
  (m.modify t fun s => { holds (-1) t.aspects s with inits := s.inits - 1 }).delist t

theorem state_raise : (m.raise t).state u =
    if u = t then { holds 1 u.aspects (m.state u) with inits := (m.state u).inits + 1 }
    else m.state u := by
  rw [raise, enlist, state_modify]
  split
  · next h => rw [h]
  · rfl

theorem state_lower : (m.lower t).state u =
    if u = t then { holds (-1) u.aspects (m.state u) with inits := (m.state u).inits - 1 }
    else m.state u := by
  rw [lower, delist, state_modify]
  split
  · next h => rw [h]
  · rfl

/-- The thread is not among those with an aspect. -/
def Out (m : ThreadManager ι) (t : Thread ι) : Prop := ∀ a, t ∉ m.threads a

theorem delist_enlist (h : m.Out t) : (m.enlist t).delist t = m := by
  ext1
  · rfl
  · funext a
    have hkeep : (m.threads a).filter (· ≠ t) = m.threads a := by
      rw [List.filter_eq_self]
      intro u hu
      simpa using fun heq : u = t => h a (heq ▸ hu)
    by_cases ha : a ∈ t.aspects
    · simpa [delist, enlist, ha, List.filter_replicate] using hkeep
    · simp [delist, enlist, ha, List.count_eq_zero.mpr ha]
  · rfl
  · rfl
  · rfl

theorem lower_raise (h : m.Out t) : (m.raise t).lower t = m := by
  have hmodify : (m.raise t).lower t = ((m.enlist t).delist t).modify t fun s =>
      { holds (-1) t.aspects (holds 1 t.aspects s) with inits := s.inits + 1 - 1 } := by
    ext1
    · rfl
    · rfl
    · rfl
    · rfl
    · simp [raise, lower, modify, enlist, delist, holds]
  rw [hmodify, delist_enlist h, modify_self]
  simp [holds]

theorem out_raise (h : m.Out u) (hne : u ≠ t) : (m.raise t).Out u := by
  intro a hmem
  rcases List.mem_append.mp hmem with hmem | hmem
  · exact h a hmem
  · exact hne (List.eq_of_mem_replicate hmem)

/-- The threads are initialized that come last first. -/
def raised (m : ThreadManager ι) (initialized : List (Thread ι)) : ThreadManager ι :=
  initialized.foldr (fun t m => m.raise t) m

theorem out_raised (h : m.Out u) (hu : u ∉ ts) : (m.raised ts).Out u := by
  induction ts with
  | nil => exact h
  | cons t ts ih =>
      rw [List.mem_cons, not_or] at hu
      exact out_raise (ih hu.2) hu.1

theorem inifins_raised : (m.raised ts).inifins = m.inifins := by
  induction ts with
  | nil => rfl
  | cons t ts ih => exact ih

theorem known_raised : (m.raised ts).Known t ↔ m.Known t := by rw [Known, inifins_raised, Known]

/-- What was initialized is finalized without a trace. -/
theorem foldl_lower_raised (hout : ∀ t ∈ ts, m.Out t) (hnodup : ts.Nodup) :
    ts.foldl lower (m.raised ts) = m := by
  induction ts with
  | nil => rfl
  | cons t ts ih =>
      obtain ⟨ht, hts⟩ := List.forall_mem_cons.mp hout
      obtain ⟨hmem, hnodup⟩ := List.nodup_cons.mp hnodup
      have hlower : (m.raised (t :: ts)).lower t = m.raised ts := lower_raise (out_raised ht hmem)
      rw [List.foldl_cons, hlower]
      exact ih hts hnodup

variable {o : Outcomes ι} {listName : String}

theorem finalizeThreads_of_known (o : Outcomes ι) (listName : String) (m : ThreadManager ι) (error : Bool)
    (me : List String) (h : ∀ t ∈ ts, m.Known t) :
    (finalizeThreads o listName ts error me m).1 = ts.foldl lower m ∧
      (finalizeThreads o listName ts error me m).2.isSome = (error || ts.any o.refuses) := by
  induction ts generalizing m error me with
  | nil => cases error <;> simp [finalizeThreads]
  | cons t ts ih =>
      obtain ⟨ht, hts⟩ := List.forall_mem_cons.mp h
      have hlower : ((m.modify t (holds (-1) t.aspects)).delist t).modify t
          (fun s => { s with inits := s.inits - 1 }) = m.lower t := by
        ext1
        · rfl
        · rfl
        · rfl
        · rfl
        · simp [lower, modify, delist, holds]
      simp only [finalizeThreads, aspectFinalize_of_known ht, hlower]
      obtain ⟨hstate, herror⟩ := ih (m.lower t) _ _ hts
      exact ⟨hstate, herror.trans (by simp [Bool.or_assoc])⟩

/-- What was initialized is finalized again, whatever the threads throw. -/
theorem failInit_raised (cite : List String) (hout : ∀ t ∈ ts, m.Out t) (hnodup : ts.Nodup)
    (hknown : ∀ t ∈ ts, m.Known t) : ∃ e, failInit o ts cite (m.raised ts) = (m, some e) := by
  obtain ⟨hstate, -⟩ := finalizeThreads_of_known o "" (m.raised ts) false
    ["One or more threads failed to finalize"] fun t ht => known_raised.mpr (hknown t ht)
  rw [foldl_lower_raised hout hnodup] at hstate
  rw [failInit]
  split
  · next m' e heq =>
      rw [heq] at hstate
      cases hstate
      exact ⟨e, rfl⟩
  · next m' heq =>
      rw [heq] at hstate
      cases hstate
      exact ⟨_, rfl⟩

/-- The two steps of an initialization. -/
theorem modify_enlist : (((m.modify t (holds 1 t.aspects)).enlist t).modify t
    fun s => { s with inits := s.inits + 1 }) = m.raise t := by
  ext1
  · rfl
  · rfl
  · rfl
  · rfl
  · simp [raise, modify, enlist, holds]

/-- The aspects alone are finalized without a trace. -/
theorem aspectFinalize_enlist (hknown : m.Known t) (hout : m.Out t) :
    ((m.modify t (holds 1 t.aspects)).enlist t).aspectFinalize t = (m, none) := by
  have hmodify : ((((m.modify t (holds 1 t.aspects)).enlist t).modify t (holds (-1) t.aspects)).delist t) =
      ((m.enlist t).delist t).modify t fun s => holds (-1) t.aspects (holds 1 t.aspects s) := by
    ext1
    · rfl
    · rfl
    · rfl
    · rfl
    · simp [modify, enlist, delist, holds]
  have hknown : ((m.modify t (holds 1 t.aspects)).enlist t).Known t := hknown
  rw [aspectFinalize_of_known hknown, hmodify, delist_enlist hout, modify_self]
  simp [holds]

/-- All threads are initialized, or nothing changes. -/
theorem initThreads_cases (o : Outcomes ι) (listName : String) (m : ThreadManager ι)
    (ts initialized : List (Thread ι)) (hout : ∀ t ∈ initialized.reverse ++ ts, m.Out t)
    (hnodup : (initialized.reverse ++ ts).Nodup) (hknown : ∀ t ∈ initialized, m.Known t) :
    (initThreads o listName ts initialized (m.raised initialized) =
        (m.raised (ts.reverse ++ initialized), none) ∧ ∀ t ∈ ts, m.Known t) ∨
      ∃ e, initThreads o listName ts initialized (m.raised initialized) = (m, some e) := by
  induction ts generalizing initialized with
  | nil => exact .inl ⟨by simp [initThreads], by simp⟩
  | cons t ts ih =>
      have hnodup' : initialized.Nodup := List.nodup_reverse.mp (List.nodup_append.mp hnodup).1
      have hout' : ∀ u ∈ initialized, m.Out u := fun u hu =>
        hout u (List.mem_append_left _ (List.mem_reverse.mpr hu))
      have ht : t ∉ initialized := by
        intro hmem
        exact (List.nodup_append.mp hnodup).2.2 t (List.mem_reverse.mpr hmem) t List.mem_cons_self rfl
      have hfail : ∀ cite, ∃ e, failInit o initialized cite (m.raised initialized) = (m, some e) :=
        fun cite => failInit_raised cite hout' hnodup' hknown
      rw [initThreads]
      rcases (m.raised initialized).aspectInit_cases t with ⟨heq, hall⟩ | ⟨messages, heq⟩
      · have hknownt : m.Known t := fun a ha => by simpa [inifins_raised] using hall a ha
        simp only [heq]
        cases hinit : o.init t with
        | none =>
            have hraise : (m.raised initialized).raise t = m.raised (t :: initialized) := rfl
            simp only [modify_enlist, hraise]
            have happend : (t :: initialized).reverse ++ ts = initialized.reverse ++ t :: ts := by simp
            rcases ih (t :: initialized) (happend ▸ hout) (happend ▸ hnodup)
              (List.forall_mem_cons.mpr ⟨hknownt, hknown⟩) with ⟨heq, hts⟩ | ⟨e, heq⟩
            · exact .inl ⟨by rw [heq]; simp, List.forall_mem_cons.mpr ⟨hknownt, hts⟩⟩
            · exact .inr ⟨e, heq⟩
        | some thrown =>
            have houtt := out_raised (hout t (List.mem_append_right _ List.mem_cons_self)) ht
            simp only [aspectFinalize_enlist (known_raised.mpr hknownt) houtt]
            exact .inr (hfail _)
      · simp only [heq]
        exact .inr (hfail _)

/-! ## What the loops over a list change -/

theorem foldl_modify {f : Thread ι → ThreadState → ThreadState} (hnodup : ts.Nodup) :
    ts.foldl (fun m t => m.modify t (f t)) m =
      { m with state := fun u => if u ∈ ts then f u (m.state u) else m.state u } := by
  induction ts generalizing m with
  | nil => simp
  | cons t ts ih =>
      obtain ⟨hmem, hnodup⟩ := List.nodup_cons.mp hnodup
      rw [List.foldl_cons, ih hnodup]
      ext1
      · rfl
      · rfl
      · rfl
      · rfl
      · funext u
        by_cases hu : u = t
        · subst hu
          simp [hmem, state_modify]
        · simp [hu, state_modify]

theorem state_raised (hnodup : ts.Nodup) :
    (m.raised ts).state u =
      if u ∈ ts then { holds 1 u.aspects (m.state u) with inits := (m.state u).inits + 1 }
      else m.state u := by
  induction ts with
  | nil => simp [raised]
  | cons t ts ih =>
      obtain ⟨hmem, hnodup⟩ := List.nodup_cons.mp hnodup
      have hcons : m.raised (t :: ts) = (m.raised ts).raise t := rfl
      rw [hcons, state_raise, ih hnodup]
      by_cases hu : u = t
      · subst hu
        simp [hmem]
      · simp [hu]

theorem count_threads_raised (hnodup : ts.Nodup) (a : String) :
    ((m.raised ts).threads a).count u =
      (m.threads a).count u + if u ∈ ts then u.aspects.count a else 0 := by
  induction ts with
  | nil => simp [raised]
  | cons t ts ih =>
      obtain ⟨hmem, hnodup⟩ := List.nodup_cons.mp hnodup
      have hthreads : (m.raised (t :: ts)).threads a =
          (m.raised ts).threads a ++ List.replicate (t.aspects.count a) t := rfl
      rw [hthreads, List.count_append, ih hnodup, List.count_replicate]
      by_cases hu : u = t
      · subst hu
        simp [hmem]
      · simp [hu, Ne.symm hu]

theorem untimedThreads_raised : (m.raised ts).untimedThreads = m.untimedThreads := by
  induction ts with
  | nil => rfl
  | cons t ts ih => exact ih

theorem isSealed_raised : (m.raised ts).isSealed = m.isSealed := by
  induction ts with
  | nil => rfl
  | cons t ts ih => exact ih

theorem state_foldl_lower (hnodup : ts.Nodup) :
    (ts.foldl lower m).state u =
      if u ∈ ts then { holds (-1) u.aspects (m.state u) with inits := (m.state u).inits - 1 }
      else m.state u := by
  induction ts generalizing m with
  | nil => simp
  | cons t ts ih =>
      obtain ⟨hmem, hnodup⟩ := List.nodup_cons.mp hnodup
      rw [List.foldl_cons, ih hnodup, state_lower]
      by_cases hu : u = t
      · subst hu
        simp [hmem]
      · simp [hu]

theorem count_threads_foldl_lower (a : String) :
    ((ts.foldl lower m).threads a).count u =
      if u ∈ ts ∧ a ∈ u.aspects then 0 else (m.threads a).count u := by
  induction ts generalizing m with
  | nil => simp
  | cons t ts ih =>
      have hthreads : ((m.lower t).threads a).count u =
          if u = t ∧ a ∈ u.aspects then 0 else (m.threads a).count u := by
        by_cases ha : a ∈ t.aspects
        · by_cases hu : u = t
          · subst hu
            simp [lower, delist, ha, List.count_eq_zero]
          · simp [lower, delist, ha, hu, List.count_filter]
        · by_cases hu : u = t
          · subst hu
            simp [lower, delist, ha]
          · simp [lower, delist, ha, hu]
      rw [List.foldl_cons, ih, hthreads]
      by_cases hu : u = t
      · subst hu
        by_cases ha : a ∈ u.aspects <;> simp [ha]
      · simp [hu]

theorem foldl_lower_rest :
    (ts.foldl lower m).inifins = m.inifins ∧ (ts.foldl lower m).untimedThreads = m.untimedThreads ∧
      (ts.foldl lower m).isSealed = m.isSealed := by
  induction ts generalizing m with
  | nil => exact ⟨rfl, rfl, rfl⟩
  | cons t ts ih => exact @ih (m.lower t)

/-- Threads that do not run are all started, unless one cannot be. -/
theorem startThreads_of_stopped (o : Outcomes ι) (m : ThreadManager ι) (ts : List (Thread ι))
    (hstopped : ∀ t ∈ ts, (m.state t).started = false) (hnodup : ts.Nodup) :
    startThreads o ts m =
        (ts.foldl (fun m t => m.modify t fun s => { s with started := true }) m, none) ∨
      (∃ m' e, startThreads o ts m = (m', some e) ∧ e.kind = .other) ∧ ∃ t ∈ ts, o.start t = false := by
  induction ts generalizing m with
  | nil => exact .inl rfl
  | cons t ts ih =>
      obtain ⟨ht, hts⟩ := List.forall_mem_cons.mp hstopped
      obtain ⟨hmem, hnodup⟩ := List.nodup_cons.mp hnodup
      rw [startThreads, if_neg (by simp [ht])]
      cases hstart : o.start t with
      | false => exact .inr ⟨⟨_, _, if_neg (by simp), rfl⟩, t, List.mem_cons_self, hstart⟩
      | true =>
          rw [if_pos rfl]
          refine (ih _ (fun u hu => ?_) hnodup).imp_right fun h => ⟨h.1, ?_⟩
          · have hne : u ≠ t := fun heq => hmem (heq ▸ hu)
            rw [state_modify, if_neg hne]
            exact hts u hu
          · obtain ⟨u, hu, hfails⟩ := h.2
            exact ⟨u, List.mem_cons_of_mem t hu, hfails⟩

/-- A thread is prepared, where none throws. -/
theorem prepareThreads_of_running (canFinalize : Bool)
    (hrunning : ∀ t ∈ ts, m.Known t ∧ (m.state t).started = true ∧ (m.state t).finalizePrepared = false)
    (hnodup : ts.Nodup) :
    prepareThreads o listName ts canFinalize none m =
      (ts.foldl (fun m t => m.modify t fun s => { s with finalizePrepared := true }) m,
        .ok (canFinalize && ts.all o.prepareFinalizeUser)) := by
  induction ts generalizing m canFinalize with
  | nil => simp [prepareThreads]
  | cons t ts ih =>
      obtain ⟨⟨hknown, hstarted, hprepared⟩, hts⟩ := List.forall_mem_cons.mp hrunning
      obtain ⟨hmem, hnodup⟩ := List.nodup_cons.mp hnodup
      rw [prepareThreads, if_neg (by simp [aspectPrepareFinalize_of_known hknown, hstarted, hprepared]), ih]
      · simp [Bool.and_assoc]
      · intro u hu
        have hne : u ≠ t := fun heq => hmem (heq ▸ hu)
        rw [state_modify, if_neg hne]
        exact hts u hu
      · exact hnodup

/-- Threads that do not run are left as they are. -/
theorem prepareThreads_of_stopped (o : Outcomes ι) (listName : String) (ts : List (Thread ι))
    (canFinalize : Bool) (threw : Option (List String))
    (hstopped : ∀ t ∈ ts, (m.state t).started = false) :
    (prepareThreads o listName ts canFinalize threw m).1 = m ∧
      ((∃ e, (prepareThreads o listName ts canFinalize threw m).2 = .error e) ∨
        ts = [] ∧ threw = none ∧ (prepareThreads o listName ts canFinalize threw m).2 = .ok canFinalize) := by
  induction ts generalizing canFinalize threw with
  | nil =>
      refine ⟨rfl, ?_⟩
      cases threw with
      | none => exact .inr ⟨rfl, rfl, rfl⟩
      | some cfte => exact .inl ⟨_, rfl⟩
  | cons t ts ih =>
      obtain ⟨ht, hts⟩ := List.forall_mem_cons.mp hstopped
      rw [prepareThreads, if_pos (by simp [ht])]
      obtain ⟨hstate, ⟨e, he⟩ | ⟨-, hthrew, -⟩⟩ := ih canFinalize
        (some (threw.getD ["Cannot finalize one or more threads"] ++
          ["Thread '" ++ t.name ++ "' throw an exception while preparing finalization of " ++
            "ThreadList '" ++ listName ++ "'"])) hts
      · exact ⟨hstate, .inl ⟨e, he⟩⟩
      · cases hthrew

theorem cancelFinalizeThreads_of_running (hrunning : ∀ t ∈ ts, (m.state t).started = true) :
    cancelFinalizeThreads ts m =
      (ts.foldl (fun m t => m.modify t fun s => { s with finalizePrepared := false }) m, none) := by
  induction ts generalizing m with
  | nil => rfl
  | cons t ts ih =>
      obtain ⟨ht, hts⟩ := List.forall_mem_cons.mp hrunning
      rw [cancelFinalizeThreads, if_neg (by simp [ht])]
      refine ih fun u hu => ?_
      rw [state_modify]
      split
      · exact hts u hu
      · exact hts u hu

/-! ## Whole lists -/

/-- A thread that runs, with all its aspects. -/
structure Runs (m : ThreadManager ι) (t : Thread ι) : Prop where
  state : m.state t = { started := true, inits := 1, held := fun a => t.aspects.count a }
  threads : ∀ a, (m.threads a).count t = t.aspects.count a
  known : m.Known t

/-- A thread that does not run, and has nothing. -/
structure Rests (m : ThreadManager ι) (t : Thread ι) : Prop where
  started : (m.state t).started = false
  inits : (m.state t).inits = 0
  held : (m.state t).held = fun _ => 0
  out : m.Out t

omit [DecidableEq ι] in
theorem Rests.congr (h : m.Rests t) (hstate : m'.state = m.state) (hthreads : m'.threads = m.threads) :
    m'.Rests t where
  started := hstate ▸ h.started
  inits := hstate ▸ h.inits
  held := hstate ▸ h.held
  out a := hthreads ▸ h.out a

end ThreadManager

/-- A thread is in one list, and once. -/
structure ThreadLists.Own (lists : ThreadLists ι) : Prop where
  nodup : ∀ l, (lists.threads l).Nodup
  own : ∀ l, ∀ t ∈ lists.threads l, t.list = l

/-- The list runs. -/
structure Up (lists : ThreadLists ι) (m : ThreadManager ι) (l : ι) : Prop where
  isSealed : m.isSealed l = true
  runs : ∀ t ∈ lists.threads l, m.Runs t
  managed : ∀ t ∈ lists.threads l, m.untimedThreads.count t = 1

/-- The list does not run, and is not managed. -/
structure Down (lists : ThreadLists ι) (m : ThreadManager ι) (l : ι) : Prop where
  rests : ∀ t ∈ lists.threads l, m.Rests t
  managed : ∀ t ∈ lists.threads l, m.untimedThreads.count t = 0
  fresh : m.isSealed l = false → ∀ t ∈ lists.threads l, (m.state t).finalizePrepared = false

/-- The list does not run, but could not be finalized and is still managed. -/
structure Stuck (lists : ThreadLists ι) (m : ThreadManager ι) (l : ι) : Prop where
  isSealed : m.isSealed l = true
  rests : ∀ t ∈ lists.threads l, m.Rests t
  managed : ∀ t ∈ lists.threads l, m.untimedThreads.count t = 1

/-- The other lists are left alone. -/
structure Frame (l : ι) (m m' : ThreadManager ι) : Prop where
  inifins : m'.inifins = m.inifins
  state : ∀ u, u.list ≠ l → m'.state u = m.state u
  threads : ∀ u, u.list ≠ l → ∀ a, (m'.threads a).count u = (m.threads a).count u
  managed : ∀ u, u.list ≠ l → m'.untimedThreads.count u = m.untimedThreads.count u
  isSealed : ∀ k, k ≠ l → m'.isSealed k = m.isSealed k

variable {m m' : ThreadManager ι} {t u : Thread ι} {lists : ThreadLists ι} {l k : ι} {o : Outcomes ι}

omit [DecidableEq ι] in
theorem ThreadLists.Own.list_ne (h : lists.Own) (hk : k ≠ l) (hu : u ∈ lists.threads k) : u.list ≠ l :=
  fun heq => hk ((h.own k u hu).symm.trans heq)

omit [DecidableEq ι] in
theorem ThreadLists.Own.notMem (h : lists.Own) (hu : u.list ≠ l) : u ∉ lists.threads l :=
  fun hmem => hu (h.own l u hmem)

theorem ThreadManager.Out.count (h : m.Out t) (a : String) : (m.threads a).count t = 0 :=
  List.count_eq_zero.mpr (h a)

namespace Frame

theorem trans {m'' : ThreadManager ι} (h : Frame l m m') (h' : Frame l m' m'') : Frame l m m'' where
  inifins := h'.inifins.trans h.inifins
  state u hu := (h'.state u hu).trans (h.state u hu)
  threads u hu a := (h'.threads u hu a).trans (h.threads u hu a)
  managed u hu := (h'.managed u hu).trans (h.managed u hu)
  isSealed k hk := (h'.isSealed k hk).trans (h.isSealed k hk)

theorem runs (h : Frame l m m') (hu : u.list ≠ l) (hruns : m.Runs u) : m'.Runs u where
  state := (h.state u hu).trans hruns.state
  threads a := (h.threads u hu a).trans (hruns.threads a)
  known a ha := h.inifins ▸ hruns.known a ha

theorem rests (h : Frame l m m') (hu : u.list ≠ l) (hrests : m.Rests u) : m'.Rests u where
  started := (h.state u hu) ▸ hrests.started
  inits := (h.state u hu) ▸ hrests.inits
  held := (h.state u hu) ▸ hrests.held
  out a := by
    rw [← List.count_eq_zero, h.threads u hu]
    exact hrests.out.count a

theorem up (h : Frame l m m') (hown : lists.Own) (hk : k ≠ l) (hup : Up lists m k) : Up lists m' k where
  isSealed := (h.isSealed k hk).trans hup.isSealed
  runs u hu := h.runs (hown.list_ne hk hu) (hup.runs u hu)
  managed u hu := (h.managed u (hown.list_ne hk hu)).trans (hup.managed u hu)

theorem down (h : Frame l m m') (hown : lists.Own) (hk : k ≠ l) (hdown : Down lists m k) :
    Down lists m' k where
  rests u hu := h.rests (hown.list_ne hk hu) (hdown.rests u hu)
  managed u hu := (h.managed u (hown.list_ne hk hu)).trans (hdown.managed u hu)
  fresh hsealed u hu := by
    rw [h.state u (hown.list_ne hk hu)]
    exact hdown.fresh ((h.isSealed k hk).symm.trans hsealed) u hu

theorem stuck (h : Frame l m m') (hown : lists.Own) (hk : k ≠ l) (hstuck : Stuck lists m k) :
    Stuck lists m' k where
  isSealed := (h.isSealed k hk).trans hstuck.isSealed
  rests u hu := h.rests (hown.list_ne hk hu) (hstuck.rests u hu)
  managed u hu := (h.managed u (hown.list_ne hk hu)).trans (hstuck.managed u hu)

end Frame

namespace ThreadManager

/-- All threads of the list are initialized and started, and the list is managed. -/
def withUp (lists : ThreadLists ι) (m : ThreadManager ι) (l : ι) : ThreadManager ι :=
  let m := { m.raised (lists.threads l).reverse with isSealed := Function.update m.isSealed l true }
  let m := (lists.threads l).foldl (fun m t => m.modify t fun s => { s with started := true }) m
  { m with untimedThreads := m.untimedThreads ++ lists.threads l }

theorem up_withUp (hown : lists.Own) (hdown : Down lists m l) (hsealed : m.isSealed l = false)
    (hknown : ∀ t ∈ lists.threads l, m.Known t) : Up lists (m.withUp lists l) l := by
  have hrev : (lists.threads l).reverse.Nodup := List.nodup_reverse.mpr (hown.nodup l)
  rw [withUp, foldl_modify (hown.nodup l)]
  refine ⟨by simp, fun t ht => ⟨?_, fun a => ?_, fun a ha => ?_⟩, fun t ht => ?_⟩
  · simp [state_raised hrev, ht, holds, (hdown.rests t ht).inits, (hdown.rests t ht).held,
      hdown.fresh hsealed t ht]
  · simp [count_threads_raised hrev, ht, (hdown.rests t ht).out.count]
  · simpa [inifins_raised] using hknown t ht a ha
  · simp [untimedThreads_raised, hdown.managed t ht, List.count_eq_one_of_mem (hown.nodup l) ht]

theorem frame_withUp (hown : lists.Own) : Frame l m (m.withUp lists l) := by
  have hrev : (lists.threads l).reverse.Nodup := List.nodup_reverse.mpr (hown.nodup l)
  rw [withUp, foldl_modify (hown.nodup l)]
  refine ⟨inifins_raised, fun u hu => ?_, fun u hu a => ?_, fun u hu => ?_, fun k hk => ?_⟩
  · simp [state_raised hrev, hown.notMem hu]
  · simp [count_threads_raised hrev, hown.notMem hu]
  · simp [untimedThreads_raised, List.count_eq_zero, hown.notMem hu]
  · simp [hk]

/-- `add` of a list that does not run: the list runs, or nothing changes, unless a thread cannot be
started. -/
theorem add_cases (hown : lists.Own) (hdown : Down lists m l) :
    (∃ e, m.add lists o l = (m, some e)) ∨
      (∃ m', m.add lists o l = (m', none) ∧ Up lists m' l ∧ Frame l m m') ∨
        (∃ m' e, m.add lists o l = (m', some e) ∧ e.kind = .other) ∧
          ∃ t ∈ lists.threads l, o.start t = false := by
  rw [add]
  split
  · exact .inl ⟨_, rfl⟩
  · next hsealed =>
      rw [Bool.not_eq_true] at hsealed
      have hnodup := hown.nodup l
      rcases initThreads_cases o (lists.name l) m (lists.threads l) []
        (fun t ht => (hdown.rests t ht).out) hnodup (by simp) with ⟨heq, hknown⟩ | ⟨e, heq⟩
      · have hinit : initThreads o (lists.name l) (lists.threads l) [] m =
            (m.raised (lists.threads l).reverse, none) := by
          simpa [raised] using heq
        rw [hinit]
        dsimp only
        have hrev : (lists.threads l).reverse.Nodup := List.nodup_reverse.mpr hnodup
        rw [isSealed_raised]
        rcases startThreads_of_stopped o
          { m.raised (lists.threads l).reverse with isSealed := Function.update m.isSealed l true }
          (lists.threads l) (fun t ht => by
            simp [state_raised hrev, ht, holds, (hdown.rests t ht).started]) hnodup with
          hstart | ⟨⟨m', e, hstart, hkind⟩, hfails⟩
        · rw [hstart]
          exact .inr (.inl ⟨m.withUp lists l, rfl, up_withUp hown hdown hsealed hknown,
            frame_withUp hown⟩)
        · rw [hstart]
          exact .inr (.inr ⟨⟨_, _, rfl, hkind⟩, hfails⟩)
      · have hinit : initThreads o (lists.name l) (lists.threads l) [] m = (m, some e) := heq
        rw [hinit]
        exact .inl ⟨e, rfl⟩

theorem count_internalRemove : (m.internalRemove lists l).untimedThreads.count u =
    if u ∈ lists.threads l then 0 else m.untimedThreads.count u := by
  rw [internalRemove]
  split
  · next hu => simp [List.count_eq_zero, hu]
  · next hu => simp [List.count_filter, hu]

theorem frame_internalRemove (hown : lists.Own) : Frame l m (m.internalRemove lists l) where
  inifins := rfl
  state _ _ := rfl
  threads _ _ _ := rfl
  managed u hu := by rw [count_internalRemove, if_neg (hown.notMem hu)]
  isSealed _ _ := rfl

/-- A list that does not run is no longer managed. -/
theorem down_internalRemove (hrests : ∀ t ∈ lists.threads l, m.Rests t) (hsealed : m.isSealed l = true) :
    Down lists (m.internalRemove lists l) l where
  rests t ht := (hrests t ht).congr rfl rfl
  managed t ht := by rw [count_internalRemove, if_pos ht]
  fresh hfalse := by
    have hfalse : m.isSealed l = false := hfalse
    rw [hsealed] at hfalse
    cases hfalse

/-- All threads of a list that runs are prepared. -/
theorem prepareThreads_of_up (hown : lists.Own) (hup : Up lists m l) :
    prepareThreads o (lists.name l) (lists.threads l).reverse true none m =
      ((lists.threads l).reverse.foldl (fun m t => m.modify t fun s => { s with finalizePrepared := true }) m,
        .ok ((lists.threads l).all o.prepareFinalizeUser)) := by
  rw [prepareThreads_of_running true ?_ (List.nodup_reverse.mpr (hown.nodup l))]
  · simp
  · intro t ht
    have hruns := hup.runs t (List.mem_reverse.mp ht)
    exact ⟨hruns.known, by simp [hruns.state], by simp [hruns.state]⟩

/-- The preparation is taken back. -/
theorem cancelFinalizeThreads_of_up (hown : lists.Own) (hup : Up lists m l) :
    cancelFinalizeThreads (lists.threads l).reverse
        ((lists.threads l).reverse.foldl
          (fun m t => m.modify t fun s => { s with finalizePrepared := true }) m) = (m, none) := by
  have hrev : (lists.threads l).reverse.Nodup := List.nodup_reverse.mpr (hown.nodup l)
  rw [foldl_modify hrev, cancelFinalizeThreads_of_running, foldl_modify hrev]
  · congr 1
    ext1
    · rfl
    · rfl
    · rfl
    · rfl
    · funext u
      by_cases hu : u ∈ lists.threads l
      · simp [hu, (hup.runs u hu).state]
      · simp [hu]
  · intro t ht
    rw [List.mem_reverse] at ht
    simp [ht, (hup.runs t ht).state]

theorem stopThreads_prepared {ts : List (Thread ι)} (hnodup : ts.Nodup) :
    stopThreads ts (ts.foldl (fun m t => m.modify t fun s => { s with finalizePrepared := true }) m) =
      { m with state := fun u =>
        if u ∈ ts then { m.state u with started := false, finalizePrepared := true } else m.state u } := by
  rw [stopThreads, foldl_modify hnodup, foldl_modify hnodup]
  ext1
  · rfl
  · rfl
  · rfl
  · rfl
  · funext u
    by_cases hu : u ∈ ts <;> simp [hu]

/-- A list that runs is stopped and finalized. -/
theorem finalizeThreads_of_up (hown : lists.Own) (hup : Up lists m l) :
    ∃ m' e, finalizeThreads o (lists.name l) (lists.threads l).reverse false
        ["One or more threads failed to finalize"]
        (stopThreads (lists.threads l).reverse
          ((lists.threads l).reverse.foldl
            (fun m t => m.modify t fun s => { s with finalizePrepared := true }) m)) = (m', e) ∧
      (∀ t ∈ lists.threads l, m'.Rests t) ∧ Frame l m m' ∧ m'.isSealed l = true ∧
      m'.untimedThreads = m.untimedThreads ∧ e.isSome = (lists.threads l).any o.refuses := by
  have hnodup : (lists.threads l).reverse.Nodup := List.nodup_reverse.mpr (hown.nodup l)
  have hany : (lists.threads l).reverse.any o.refuses = (lists.threads l).any o.refuses := by simp
  have hmem : ∀ t, t ∈ (lists.threads l).reverse ↔ t ∈ lists.threads l := fun t => List.mem_reverse
  generalize (lists.threads l).reverse = ts at hnodup hany hmem ⊢
  rw [stopThreads_prepared hnodup]
  obtain ⟨hstate, herror⟩ := finalizeThreads_of_known o (lists.name l)
    { m with state := fun u =>
      if u ∈ ts then { m.state u with started := false, finalizePrepared := true } else m.state u }
    false ["One or more threads failed to finalize"]
    fun t ht => (hup.runs t ((hmem t).mp ht)).known
  refine ⟨_, _, rfl, ?_⟩
  rw [hstate]
  refine ⟨fun t ht => ⟨?_, ?_, ?_, fun a => ?_⟩, ⟨?_, fun u hu => ?_, fun u hu a => ?_, fun u hu => ?_,
    fun k hk => ?_⟩, ?_, ?_, ?_⟩
  · simp [state_foldl_lower hnodup, (hmem t).mpr ht, holds]
  · simp [state_foldl_lower hnodup, (hmem t).mpr ht, (hup.runs t ht).state]
  · simp [state_foldl_lower hnodup, (hmem t).mpr ht, holds, (hup.runs t ht).state]
  · rw [← List.count_eq_zero, count_threads_foldl_lower]
    by_cases ha : a ∈ t.aspects
    · simp [(hmem t).mpr ht, ha]
    · simp [ha, (hup.runs t ht).threads, List.count_eq_zero.mpr ha]
  · exact foldl_lower_rest.1
  · simp [state_foldl_lower hnodup, hmem, hown.notMem hu]
  · simp [count_threads_foldl_lower, hmem, hown.notMem hu]
  · rw [foldl_lower_rest.2.1]
  · rw [foldl_lower_rest.2.2]
  · rw [foldl_lower_rest.2.2]
    exact hup.isSealed
  · exact foldl_lower_rest.2.1
  · rw [herror, hany]
    rfl

/-- `remove` of a list that runs: nothing changes, or the list does not run. -/
theorem remove_of_up (hown : lists.Own) (hup : Up lists m l) :
    (∃ e, m.remove lists o l = (m, some e) ∧ (lists.threads l).all o.prepareFinalizeUser = false) ∨
      (∃ m' e, m.remove lists o l = (m', some e) ∧ Stuck lists m' l ∧ Frame l m m' ∧
        (lists.threads l).any o.refuses = true) ∨
      ∃ m', m.remove lists o l = (m', none) ∧ Down lists m' l ∧ Frame l m m' := by
  rw [remove, if_neg (by simp [hup.isSealed]), prepareThreads_of_up hown hup]
  cases hall : (lists.threads l).all o.prepareFinalizeUser with
  | false =>
      dsimp only
      rw [cancelFinalizeThreads_of_up hown hup]
      exact .inl ⟨_, rfl, rfl⟩
  | true =>
      obtain ⟨m', e, heq, hrests, hframe, hsealed, huntimed, herror⟩ :=
        finalizeThreads_of_up (o := o) hown hup
      dsimp only
      rw [heq]
      cases e with
      | some e =>
          refine .inr (.inl ⟨m', e, rfl, ⟨hsealed, hrests, fun t ht => ?_⟩, hframe, herror.symm⟩)
          rw [huntimed]
          exact hup.managed t ht
      | none =>
          exact .inr (.inr ⟨_, rfl, down_internalRemove hrests hsealed,
            hframe.trans (frame_internalRemove hown)⟩)

/-- `force_remove` of a list that runs. -/
theorem forceRemove_of_up (hown : lists.Own) (hup : Up lists m l) :
    ∃ m', m.forceRemove lists o l = (m', none) ∧ Down lists m' l ∧ Frame l m m' := by
  rw [forceRemove, if_neg (by simp [hup.isSealed]), forceStop, prepareThreads_of_up hown hup]
  obtain ⟨m', e, heq, hrests, hframe, hsealed, huntimed, -⟩ := finalizeThreads_of_up (o := o) hown hup
  dsimp only
  rw [heq]
  exact ⟨_, rfl, down_internalRemove hrests hsealed, hframe.trans (frame_internalRemove hown)⟩

/-- `remove` of a list that does not run changes nothing. -/
theorem remove_of_rests (hrests : ∀ t ∈ lists.threads l, m.Rests t) : (m.remove lists o l).1 = m := by
  rw [remove]
  split
  · rfl
  · obtain ⟨hstate, ⟨e, he⟩ | ⟨hnil, -, hok⟩⟩ := prepareThreads_of_stopped o (lists.name l)
      (lists.threads l).reverse true none fun t ht => (hrests t (List.mem_reverse.mp ht)).started
    · rw [show prepareThreads o (lists.name l) (lists.threads l).reverse true none m = (m, .error e) from
        Prod.ext hstate he]
    · rw [show prepareThreads o (lists.name l) (lists.threads l).reverse true none m = (m, .ok true) from
        Prod.ext hstate hok]
      simp [List.reverse_eq_nil_iff.mp hnil, stopThreads, finalizeThreads, internalRemove]

theorem forceStop_of_rests (hrests : ∀ t ∈ lists.threads l, m.Rests t) : m.forceStop lists o l = m := by
  obtain ⟨hstate, ⟨e, he⟩ | ⟨hnil, -, hok⟩⟩ := prepareThreads_of_stopped o (lists.name l)
    (lists.threads l).reverse true none fun t ht => (hrests t (List.mem_reverse.mp ht)).started
  · rw [forceStop, show prepareThreads o (lists.name l) (lists.threads l).reverse true none m =
      (m, .error e) from Prod.ext hstate he]
  · rw [forceStop, show prepareThreads o (lists.name l) (lists.threads l).reverse true none m =
      (m, .ok true) from Prod.ext hstate hok]
    simp [List.reverse_eq_nil_iff.mp hnil, stopThreads, finalizeThreads]

/-! ## Runs -/

/-- Every list runs or does not run, or is stuck where threads may refuse. -/
def Whole (lists : ThreadLists ι) (refused : Prop) (m : ThreadManager ι) : Prop :=
  ∀ l, Up lists m l ∨ Down lists m l ∨ refused ∧ Stuck lists m l

end ThreadManager

/-- The threads of a list that is added can be started. -/
def Call.Starts (lists : ThreadLists ι) : Call ι → Prop
  | .add l o => ∀ t ∈ lists.threads l, o.start t = true
  | _ => True

/-- A thread of a list that is removed says, while it is finalized, that it cannot be. -/
def Call.Refused (lists : ThreadLists ι) : Call ι → Prop
  | .remove l o => ∃ t ∈ lists.threads l, o.refuses t = true
  | _ => False

namespace ThreadManager

theorem Whole.of_frame {refused : Prop} (hown : lists.Own) (h : Whole lists refused m) (hframe : Frame l m m')
    (hl : Up lists m' l ∨ Down lists m' l ∨ refused ∧ Stuck lists m' l) : Whole lists refused m' := by
  intro k
  by_cases hk : k = l
  · exact hk ▸ hl
  · rcases h k with hup | hdown | ⟨hrefused, hstuck⟩
    · exact .inl (hframe.up hown hk hup)
    · exact .inr (.inl (hframe.down hown hk hdown))
    · exact .inr (.inr ⟨hrefused, hframe.stuck hown hk hstuck⟩)

theorem Whole.init {inifins : List String} : Whole lists False { inifins } := by
  refine fun l => .inr (.inl ⟨fun t _ => ⟨rfl, rfl, rfl, fun a => ?_⟩, fun t _ => rfl, fun _ t _ => rfl⟩)
  exact List.not_mem_nil

/-- Other aspects are known, but still those of the threads that run. -/
theorem Whole.withInifins {refused : Prop} {inifins : List String} (h : Whole lists refused m)
    (hknown : ∀ l, ∀ t ∈ lists.threads l, m.Runs t → ∀ a ∈ t.aspects, a ∈ inifins) :
    Whole lists refused { m with inifins } := by
  intro l
  rcases h l with hup | hdown | ⟨hrefused, hstuck⟩
  · refine .inl ⟨hup.isSealed, fun t ht => ?_, hup.managed⟩
    have hruns := hup.runs t ht
    exact ⟨hruns.state, hruns.threads, hknown l t ht hruns⟩
  · refine .inr (.inl ⟨fun t ht => ?_, hdown.managed, hdown.fresh⟩)
    exact (hdown.rests t ht).congr rfl rfl
  · refine .inr (.inr ⟨hrefused, hstuck.isSealed, fun t ht => ?_, hstuck.managed⟩)
    exact (hstuck.rests t ht).congr rfl rfl

theorem Whole.registerInifin {refused : Prop} {aspect : String} (h : Whole lists refused m) :
    Whole lists refused (m.registerInifin aspect).1 := by
  rw [ThreadManager.registerInifin]
  split
  · exact h
  · exact h.withInifins fun l t ht hruns a ha => List.mem_cons_of_mem _ (hruns.known a ha)

theorem Whole.unregisterInifin {refused : Prop} {aspect : String} (h : Whole lists refused m) :
    Whole lists refused (m.unregisterInifin aspect).1 := by
  rw [ThreadManager.unregisterInifin]
  split
  · exact h
  · split
    · exact h
    · next hempty =>
        rw [not_not] at hempty
        refine h.withInifins fun l t ht hruns a ha => List.mem_filter.mpr ⟨hruns.known a ha, ?_⟩
        -- The threads that run are among those with the aspect.
        have hcount := hruns.threads a
        simp only [decide_eq_true_eq]
        rintro rfl
        rw [hempty, List.count_nil] at hcount
        exact List.count_eq_zero.mp hcount.symm ha

/-- A call of `add` that throws changes nothing. -/
theorem Whole.add_cases {refused : Prop} (hown : lists.Own) (h : Whole lists refused m)
    (hstarts : ∀ t ∈ lists.threads l, o.start t = true) :
    (∃ e, m.add lists o l = (m, some e)) ∨
      ∃ m', m.add lists o l = (m', none) ∧ Up lists m' l ∧ Frame l m m' := by
  by_cases hsealed : m.isSealed l = true
  · exact .inl ⟨_, if_pos hsealed⟩
  · rcases h l with hup | hdown | ⟨-, hstuck⟩
    · exact absurd hup.isSealed hsealed
    · refine (ThreadManager.add_cases hown hdown).imp_right fun hadd => hadd.resolve_right ?_
      rintro ⟨-, t, ht, hfails⟩
      rw [hstarts t ht] at hfails
      cases hfails
    · exact absurd hstuck.isSealed hsealed

theorem Whole.add {refused : Prop} (hown : lists.Own) (h : Whole lists refused m)
    (hstarts : ∀ t ∈ lists.threads l, o.start t = true) : Whole lists refused (m.add lists o l).1 := by
  rcases h.add_cases hown hstarts with ⟨e, heq⟩ | ⟨m', heq, hup, hframe⟩
  · rw [heq]
    exact h
  · rw [heq]
    exact h.of_frame hown hframe (.inl hup)

theorem Whole.remove {refused : Prop} (hown : lists.Own) (h : Whole lists refused m)
    (hrefused : (∃ t ∈ lists.threads l, o.refuses t = true) → refused) :
    Whole lists refused (m.remove lists o l).1 := by
  rcases h l with hup | hdown | ⟨-, hstuck⟩
  · rcases remove_of_up hown hup with ⟨e, heq, -⟩ | ⟨m', e, heq, hstuck, hframe, hany⟩ |
        ⟨m', heq, hdown, hframe⟩
    · rw [heq]
      exact h
    · rw [heq]
      exact h.of_frame hown hframe (.inr (.inr ⟨hrefused (List.any_eq_true.mp hany), hstuck⟩))
    · rw [heq]
      exact h.of_frame hown hframe (.inr (.inl hdown))
  · rw [remove_of_rests hdown.rests]
    exact h
  · rw [remove_of_rests hstuck.rests]
    exact h

theorem Whole.forceRemove {refused : Prop} (hown : lists.Own) (h : Whole lists refused m) :
    Whole lists refused (m.forceRemove lists o l).1 := by
  have hrests : (∀ t ∈ lists.threads l, m.Rests t) → Whole lists refused (m.forceRemove lists o l).1 := by
    intro hrests
    rw [ThreadManager.forceRemove, forceStop_of_rests hrests]
    split
    · exact h
    · next hsealed =>
        rw [Bool.not_eq_true, Bool.not_eq_false'] at hsealed
        exact h.of_frame hown (frame_internalRemove hown) (.inr (.inl (down_internalRemove hrests hsealed)))
  rcases h l with hup | hdown | ⟨-, hstuck⟩
  · obtain ⟨m', heq, hdown, hframe⟩ := forceRemove_of_up (o := o) hown hup
    rw [heq]
    exact h.of_frame hown hframe (.inr (.inl hdown))
  · exact hrests hdown.rests
  · exact hrests hstuck.rests

theorem Whole.call {refused : Prop} {c : Call ι} (hown : lists.Own) (h : Whole lists refused m)
    (hstarts : c.Starts lists) (hrefused : c.Refused lists → refused) :
    Whole lists refused (m.call lists c).1 := by
  cases c with
  | registerInifin aspect => exact h.registerInifin
  | unregisterInifin aspect => exact h.unregisterInifin
  | add l o => exact h.add hown hstarts
  | remove l o => exact h.remove hown hrefused
  | forceRemove l o => exact h.forceRemove hown

end ThreadManager

/-- A call, whether it throws or not. -/
def ThreadStep (lists : ThreadLists ι) (m : ThreadManager ι) (c : Call ι) (m' : ThreadManager ι) : Prop :=
  (m.call lists c).1 = m'

namespace ThreadManager

/-- Over every run of calls in which the threads of the lists that are added can be started, each list runs
whole or not at all: its threads are started, initialized once, and with each of their aspects, or none of
that; only a list whose threads refuse to be finalized stays managed without. A call of `add` that throws
changes nothing. -/
theorem lists_whole (hown : lists.Own) {tr : List (Step (ThreadManager ι) (Call ι))}
    (hrun : Run (ThreadStep lists) { inifins := [] } tr m) (hstarts : ∀ t ∈ tr, t.label.Starts lists) :
    (∀ l, Up lists m l ∨ Down lists m l ∨ (∃ t ∈ tr, t.label.Refused lists) ∧ Stuck lists m l) ∧
      ∀ l o, (∀ t ∈ lists.threads l, o.start t = true) → (m.add lists o l).2 ≠ none →
        (m.add lists o l).1 = m := by
  have hwhole : Whole lists (∃ t ∈ tr, t.label.Refused lists) m := by
    refine Run.invariant_of (C := fun _ c => c.Starts lists ∧
      (c.Refused lists → ∃ t ∈ tr, t.label.Refused lists)) ?_ ?_ hrun
      fun t ht => ⟨hstarts t ht, fun hrefused => ⟨t, ht, hrefused⟩⟩
    · intro l
      exact (Whole.init l).imp_right fun h => h.imp_right fun h => h.1.elim
    · rintro m c _ h ⟨hstarts, hrefused⟩ rfl
      exact h.call hown hstarts hrefused
  refine ⟨hwhole, fun l o hstarts hthrows => ?_⟩
  rcases hwhole.add_cases hown hstarts with ⟨e, heq⟩ | ⟨m', heq, -, -⟩
  · rw [heq]
  · rw [heq] at hthrows
    exact absurd rfl hthrows

/-- Two lists, of which the second has two threads. -/
def twoLists : ThreadLists ℕ where
  threads
    | 0 => [⟨0, 0, "machines", ["LoggingAspect"], ["LoggingAspect"]⟩]
    | 1 => [⟨1, 0, "belt", ["LoggingAspect"], ["LoggingAspect"]⟩, ⟨1, 1, "drill", [], []⟩]
    | _ => []
  name _ := "plugin"

theorem own_twoLists : twoLists.Own where
  nodup l := by
    match l with
    | 0 | 1 => decide
    | _ + 2 => exact List.nodup_nil
  own l t ht := by
    match l with
    | 0 =>
        cases List.mem_singleton.mp ht
        rfl
    | 1 =>
        rcases List.mem_pair.mp ht with rfl | rfl <;> rfl
    | _ + 2 => cases ht

/-- The second thread of the second list throws while it is initialized. -/
def throwingCalls : List (Call ℕ) :=
  [.registerInifin "LoggingAspect", .add 0 {},
    .add 1 { init := fun t => if t.index = 1 then some .unknown else none }]

theorem lists_whole_of_throwing_thread : ∃ tr m, Run (ThreadStep twoLists) { inifins := [] } tr m ∧
    Up twoLists m 0 ∧ Down twoLists m 1 := by
  have hrun := run_record (fun m c => (ThreadManager.call twoLists m c).1) { inifins := [] } throwingCalls
  have hstarts : ∀ c ∈ throwingCalls, c.Starts twoLists := by
    simp [throwingCalls, Call.Starts]
  obtain ⟨hwhole, -⟩ := lists_whole own_twoLists hrun fun t ht => hstarts _ (label_mem_of_record ht)
  refine ⟨_, _, hrun, ?_, ?_⟩
  · rcases hwhole 0 with hup | hdown | ⟨-, hstuck⟩
    · exact hup
    · exact absurd (hdown.managed _ List.mem_cons_self) (by decide +kernel)
    · exact absurd (hstuck.rests _ List.mem_cons_self).started (by decide +kernel)
  · rcases hwhole 1 with hup | hdown | ⟨-, hstuck⟩
    · exact absurd hup.isSealed (by decide +kernel)
    · exact hdown
    · exact absurd hstuck.isSealed (by decide +kernel)

end ThreadManager

end FactoryHub.Threads
