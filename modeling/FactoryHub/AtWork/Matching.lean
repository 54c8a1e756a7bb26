import FactoryHub.AtWork.CheckedGenerate
import Mathlib.Data.List.Perm.Basic

/-!
# Items for the tasks

Every task that `generate` makes finds its object at its source, whatever is drawn, and no list is
read where it has nothing.

* `Stocked` — what is in the inventory, between the statements that make items and tasks.
* `transport_safe`, `placeDecoys_safe` — parts of the handlers.
* `Scenario.generated_match` — the tasks and the items of each scenario.
-/

namespace FactoryHub.AtWork

open Clips Generate Lib

/-! ## Positions -/

/-- Lists with the same values, up to the order and some others: an injection of positions. -/
theorem exists_injection {α β γ : Type} [DecidableEq γ] {l : List α} {l₁ : List β} {l₂ : List γ}
    {p : α → γ} {q : β → γ} (h : (l.map p).Perm (l₁.map q ++ l₂)) :
    ∃ f : Fin l₁.length → Fin l.length, Function.Injective f ∧
      (∀ i, p (l.get (f i)) = q (l₁.get i)) ∧ ∀ j, (∀ i, f i ≠ j) → p (l.get j) ∈ l₂ := by
  have hlen : (l.map p).length = l.length := List.length_map _
  have hlen' : (l₁.map q ++ l₂).length = l₁.length + l₂.length := by
    rw [List.length_append, List.length_map]
  let left (i : Fin l₁.length) : Fin (l₁.map q ++ l₂).length := ⟨i, by omega⟩
  let f (i : Fin l₁.length) : Fin l.length := (h.symm.idxBij (left i)).cast hlen
  have hval (k) : p (l.get ((h.symm.idxBij k).cast hlen)) = (l₁.map q ++ l₂).get k := by
    rw [List.get_eq_getElem, List.get_eq_getElem, ← h.symm.getElem_idxBij_eq_getElem k,
      List.getElem_map]
    rfl
  refine ⟨f, ?_, ?_, ?_⟩
  · intro i i' heq
    have hval : (f i).val = (f i').val := congrArg Fin.val heq
    have hleft : (left i).val = (left i').val :=
      congrArg Fin.val (h.symm.idxBij_injective (Fin.ext hval))
    exact Fin.ext hleft
  · intro i
    rw [hval, List.get_eq_getElem, List.getElem_append_left (by simp [left]), List.getElem_map]
    rfl
  · intro j hj
    obtain ⟨k, hk⟩ := h.symm.idxBij_surjective (j.cast hlen.symm)
    have hkj : (h.symm.idxBij k).cast hlen = j := by
      rw [hk]
      rfl
    -- the position is none of the first list
    have hge : l₁.length ≤ k.val := by
      by_contra hlt
      exact hj ⟨k, by omega⟩ hkj
    rw [← hkj, hval, List.get_eq_getElem, List.getElem_append_right (by simpa using hge)]
    exact List.getElem_mem _

/-! ## Tasks and items -/

/-- An object at a location. -/
abbrev Key := ObjectId × Option LocationId

/-- What an item is and where it is. -/
def Item.key (item : Item) : Key := (item.objectId, item.locationId)

/-- What a task transports and from where. -/
def TransportationTask.key (tt : TransportationTask) : Key := (tt.objectId, tt.sourceId)

/-- The transportation tasks. -/
def transports (tasks : List Task) : List TransportationTask :=
  tasks.filterMap Task.transportationTask

/-- Each task has an item of its own: its object at its source. The objects of the other items,
containers aside, are those of no task. -/
def Matched (items : List Item) (tasks : List TransportationTask) : Prop :=
  ∃ f : Fin tasks.length → Fin items.length, Function.Injective f ∧
    (∀ i, (items.get (f i)).objectId = (tasks.get i).objectId ∧
      ∃ source, (tasks.get i).sourceId = some source ∧
        (items.get (f i)).locationId = some source) ∧
    ∀ j, (∀ i, f i ≠ j) → (items.get j).objectId ≠ .containerB →
      (items.get j).objectId ≠ .containerR → ∀ tt ∈ tasks, tt.objectId ≠ (items.get j).objectId

/-- The items are those of the tasks and `extra` ones. No task transports an object of `pool`. -/
structure Stocked (pool : List ObjectId) (extra : List Key) (c : Content) : Prop where
  items : (c.items.map Item.key).Perm ((transports c.tasks).map TransportationTask.key ++ extra)
  moved : ∀ tt ∈ transports c.tasks, tt.objectId ∉ pool
  sources : ∀ tt ∈ transports c.tasks, tt.sourceId.isSome

/-- The extra items are containers or of objects that no task transports. -/
def Supplied (c : Content) : Prop :=
  ∃ pool extra, Stocked pool extra c ∧
    ∀ k ∈ extra, k.1 ∈ pool ∨ k.1 = .containerB ∨ k.1 = .containerR

variable {pool pool' : List ObjectId} {extra : List Key} {c : Content}

theorem Stocked.draws (h : Stocked pool extra c) (n : ℕ) :
    Stocked pool extra { c with draws := n } := ⟨h.items, h.moved, h.sources⟩

/-- The inventory and the task list are empty. -/
def Bare (c : Content) : Prop := c.items = [] ∧ c.tasks = []

theorem Bare.stocked (h : Bare c) (pool : List ObjectId) : Stocked pool [] c := by
  obtain ⟨hitems, htasks⟩ := h
  constructor
  · rw [hitems, htasks]
    exact List.Perm.refl _
  · simp [htasks, transports]
  · simp [htasks, transports]

theorem Stocked.mono (h : Stocked pool extra c) (hpool : ∀ o ∈ pool', o ∈ pool) :
    Stocked pool' extra c := ⟨h.items, fun tt htt ho => h.moved tt htt (hpool _ ho), h.sources⟩

theorem Stocked.supplied (h : Stocked pool [] c) : Supplied c := by
  refine ⟨pool, [], h, ?_⟩
  simp

/-- The tasks find their items where the permutation puts them. -/
theorem Supplied.matched (h : Supplied c) : Matched c.items (transports c.tasks) := by
  obtain ⟨pool, extra, hstock, hextra⟩ := h
  obtain ⟨f, hinj, hkey, hrest⟩ := exists_injection hstock.items
  refine ⟨f, hinj, ?_, ?_⟩
  · intro i
    have hobject : (c.items.get (f i)).objectId = ((transports c.tasks).get i).objectId :=
      congrArg Prod.fst (hkey i)
    have hlocation : (c.items.get (f i)).locationId = ((transports c.tasks).get i).sourceId :=
      congrArg Prod.snd (hkey i)
    obtain ⟨source, hsource⟩ :=
      Option.isSome_iff_exists.mp (hstock.sources _ (List.get_mem _ i))
    exact ⟨hobject, source, hsource, hlocation.trans hsource⟩
  · intro j hj hblue hred tt htt heq
    rcases hextra _ (hrest j hj) with hpool | hcontainer | hcontainer
    · exact hstock.moved tt htt (heq ▸ hpool)
    · exact hblue hcontainer
    · exact hred hcontainer

/-! ## Parts of a handler -/

variable {rand : ℕ → ℕ} {α : Type} [Inhabited α]

/-- The random draws have no part in it. -/
def Drawless (P : Content → Prop) : Prop := ∀ c n, P c → P { c with draws := n }

omit [Inhabited α] in
theorem draw_safe {P : Content → Prop} {p : α → Prop} {x : Checked ℕ α} {y : StateM ℕ α}
    (h : Safe (fun _ => True) x y fun a _ => p a) (hP : Drawless P) :
    Safe P (draw? x) (draw y) fun a c => p a ∧ P c := by
  intro c hc
  obtain ⟨hrun, hp⟩ := h c.draws trivial
  refine ⟨?_, hp, hP c _ hc⟩
  show (x.run c.draws).map _ = _
  rw [hrun]
  rfl

theorem pick_safe {P : Content → Prop} (hP : Drawless P) {l : List α} (hl : l ≠ []) :
    Safe P (pick? rand l) (pick rand l) fun a c => a ∈ l ∧ P c :=
  draw_safe (p := fun a => a ∈ l) (pickRandom_safe hl) hP

theorem shuffle_safe {P : Content → Prop} (hP : Drawless P) {l : List α} (hl : l ≠ []) :
    Safe P (shuffle? rand l) (shuffle rand l) fun l' c => l'.Perm l ∧ P c :=
  draw_safe (p := fun l' : List α => l'.Perm l) (randomize_safe hl) hP

theorem drawless_bare : Drawless Bare := fun _ _ hc => hc

theorem drawless_stocked : Drawless (Stocked pool extra) := fun _ n hc => hc.draws n

theorem read_bind_safe {β : Type} {P : Content → Prop} {Q : β → Content → Prop} {i : ℕ} {l : List α}
    {f : α → Generate? β} {y : Generate β} (hpos : 0 < i) (hle : i ≤ l.length)
    (h : Safe P (f (nth i l)) y Q) : Safe P (read i l >>= f) y Q :=
  Safe.check_bind (nth?_eq_some hpos hle) h

theorem readInTurn_bind_safe {β : Type} {P : Content → Prop} {Q : β → Content → Prop} {i : ℕ}
    {l : List α} {f : α → Generate? β} {y : Generate β} (hl : l ≠ [])
    (h : Safe P (f (inTurn i l)) y Q) : Safe P (readInTurn i l >>= f) y Q := by
  have hlt : i % l.length < l.length := Nat.mod_lt _ (List.length_pos_of_ne_nil hl)
  exact read_bind_safe (by omega) (by omega) h

/-- A loop, with an invariant that depends on the rounds made. -/
theorem loopForCount_safe {σ : Type} {I : ℕ → σ → Content → Prop} {m : ℕ}
    {body? : ℕ → σ → Generate? σ} {body : ℕ → σ → Generate σ}
    (h : ∀ k vars, k < m → Safe (I k vars) (body? (k + 1) vars) (body (k + 1) vars) (I (k + 1)))
    (vars : σ) :
    Safe (I 0 vars) (loopForCount? m vars body?) (loopForCount m vars body) (I m) := by
  have hloop := Safe.foldlM_range' (I := fun i => I (i - 1)) (f := fun vars i => body? i vars)
    (g := fun vars i => body i vars) m 1 ?_ vars
  · rwa [Nat.add_sub_cancel_left] at hloop
  · intro i vars hpos hlt
    obtain ⟨k, rfl⟩ := Nat.exists_eq_add_of_le' hpos
    exact h k vars (by omega)

/-- A loop whose invariant is one of its variables, `I k` after `k` rounds. -/
theorem rounds_safe {σ : Type} {P : Content → Prop} {I : ℕ → σ → Prop} {m : ℕ}
    {body? : ℕ → σ → Generate? σ} {body : ℕ → σ → Generate σ}
    (h : ∀ k vars, k < m → I k vars → Safe P (body? (k + 1) vars) (body (k + 1) vars)
      fun vars' c => I (k + 1) vars' ∧ P c) {vars : σ} (hvars : I 0 vars) :
    Safe P (loopForCount? m vars body?) (loopForCount m vars body) fun vars' c =>
      I m vars' ∧ P c := by
  refine (loopForCount_safe (I := fun k vars c => I k vars ∧ P c) ?_ vars).mono
    (fun c hc => ⟨hvars, hc⟩) fun _ _ hc => hc
  intro k vars hk
  apply Safe.of_imp
  exact h k vars hk

theorem insertItem_stocked (item : Item) :
    Triple (Stocked pool extra) (insertItem item) fun _ => Stocked pool (item.key :: extra) := by
  refine Triple.modify fun c hc => ⟨?_, hc.moved, hc.sources⟩
  exact (hc.items.cons item.key).trans List.perm_middle.symm

theorem offerTransportation_stocked (item : ObjectId) (s d : LocationId) (box : Option ObjectId) :
    Triple (Stocked pool extra) (offerTransportation item s d box) fun t c =>
      (∃ tt, t.transportationTask = some tt ∧ tt.objectId = item ∧ tt.sourceId = some s) ∧
        Stocked pool extra c :=
  fun _ hc => ⟨⟨_, rfl, rfl, rfl⟩, hc.items, hc.moved, hc.sources⟩

theorem insertTask_stocked {t : Task} {tt : TransportationTask} {item : ObjectId} {s : LocationId}
    (ht : t.transportationTask = some tt) (hitem : tt.objectId = item) (hs : tt.sourceId = some s)
    (hpool : item ∉ pool) :
    Triple (Stocked pool ((item, some s) :: extra)) (insertTask t) fun _ => Stocked pool extra := by
  refine Triple.modify fun c hc => ?_
  have hcons : transports (t :: c.tasks) = tt :: transports c.tasks := by
    simp [transports, ht]
  constructor
  · show (c.items.map Item.key).Perm ((transports (t :: c.tasks)).map _ ++ extra)
    rw [hcons, List.map_cons, TransportationTask.key, hitem, hs]
    exact hc.items.trans List.perm_middle
  · show ∀ tt ∈ transports (t :: c.tasks), _
    rw [hcons, List.forall_mem_cons, hitem]
    exact ⟨hpool, hc.moved⟩
  · show ∀ tt ∈ transports (t :: c.tasks), _
    rw [hcons, List.forall_mem_cons, hs]
    exact ⟨rfl, hc.sources⟩

/-- A navigation task transports nothing. -/
theorem offerNavigation_stocked (location : LocationId) (waitTime : Int)
    (orientation : Orientation) :
    Triple (Stocked pool extra) (offerNavigation location waitTime orientation) fun t c =>
      t.transportationTask = none ∧ Stocked pool extra c :=
  fun _ hc => ⟨rfl, hc.items, hc.moved, hc.sources⟩

theorem insertNavigation_stocked {t : Task} (ht : t.transportationTask = none) :
    Triple (Stocked pool extra) (insertTask t) fun _ => Stocked pool extra := by
  refine Triple.modify fun c hc => ?_
  have hcons : transports (t :: c.tasks) = transports c.tasks := by
    simp [transports, ht]
  constructor
  · show (c.items.map Item.key).Perm ((transports (t :: c.tasks)).map _ ++ extra)
    rw [hcons]
    exact hc.items
  · show ∀ tt ∈ transports (t :: c.tasks), _
    rw [hcons]
    exact hc.moved
  · show ∀ tt ∈ transports (t :: c.tasks), _
    rw [hcons]
    exact hc.sources

section Offers

variable {item : ObjectId} (s d : LocationId) (box : Option ObjectId)

/-- An offered task is inserted, and it has its item. -/
theorem insert_offered_safe (hpool : item ∉ pool) :
    Safe (Stocked pool ((item, some s) :: extra))
      (do
        let task ← offerTransportation item s d box
        insertTask task : Generate? Unit)
      (do insertTask (← offerTransportation item s d box)) fun _ => Stocked pool extra := by
  refine Safe.bind_imp (Safe.lift (offerTransportation_stocked item s d box)) ?_
  rintro t ⟨tt, ht, hitem, hs⟩
  exact Safe.lift (insertTask_stocked ht hitem hs hpool)

/-- An offered task is inserted before whatever comes next. -/
theorem offer_safe {β : Type} {x? : Generate? β} {x : Generate β} {Q : β → Content → Prop}
    (hpool : item ∉ pool) (hx : Safe (Stocked pool extra) x? x Q) :
    Safe (Stocked pool ((item, some s) :: extra))
      (do
        let task ← offerTransportation item s d box
        insertTask task
        x? : Generate? β)
      (do insertTask (← offerTransportation item s d box); x) Q := by
  refine Safe.bind_imp (Safe.lift (offerTransportation_stocked item s d box)) ?_
  rintro t ⟨tt, ht, hitem, hs⟩
  exact Safe.bind (Safe.lift (insertTask_stocked ht hitem hs hpool)) fun _ => hx

end Offers

/-! ## Handlers without decoys -/

/-- An object and its task. -/
theorem BasicManipulationTest1.manipulate_safe {objects : List ObjectId} (hobjects : objects ≠ []) :
    Safe (Stocked [] []) (manipulate? rand objects)
      (do
        let item ← pick rand objects
        insertItem { objectId := item, locationId := some .workstation05 }
        insertTask (← offerTransportation item .workstation05 .workstation06))
      fun _ => Stocked [] [] := by
  refine Safe.bind_imp (pick_safe drawless_stocked hobjects) fun item _ => ?_
  refine Safe.bind (Safe.lift (insertItem_stocked _)) fun _ => ?_
  exact insert_offered_safe _ _ _ (List.not_mem_nil)

theorem BasicManipulationTest1.generate_safe :
    Safe (Stocked [] []) (generate? rand) (generate rand) fun _ => Supplied := by
  refine Safe.bind (loopForCount_safe (I := fun _ _ => Stocked [] []) (fun k _ _ => ?_) ())
    fun _ => ?_
  · exact manipulate_safe (by decide)
  · refine (loopForCount_safe (I := fun _ _ => Stocked [] []) (fun k _ _ => ?_) ()).post
      fun _ _ hc => hc.supplied
    exact manipulate_safe (by decide)

/-- The locations of the navigation test, of which one is deleted in each round. -/
theorem BasicNavigationTest1.generate_safe :
    Safe (Stocked [] []) (generate? rand) (generate rand) fun _ => Supplied := by
  refine Safe.bind (rounds_safe (I := Left 32) ?_ ⟨by decide, by decide⟩) fun _ => Safe.pure ?_
  · intro k locations hk hleft
    refine Safe.bind_imp (pick_safe drawless_stocked (hleft.ne_nil (by omega))) fun location _ => ?_
    refine Safe.bind_imp (pick_safe drawless_stocked (by decide)) fun orientation _ => ?_
    refine Safe.bind_imp (Safe.lift (offerNavigation_stocked location 3 orientation)) fun t ht => ?_
    refine Safe.bind (Safe.lift (insertNavigation_stocked ht)) fun _ => Safe.pure fun c hc => ?_
    exact ⟨hleft.deleteMember location, hc⟩
  · rintro c ⟨-, hc⟩
    exact hc.supplied

theorem threeObjects_safe (s d : LocationId) :
    Safe (Stocked [] []) (threeObjects? rand s d) (threeObjects rand s d) fun _ => Supplied := by
  refine Safe.bind (rounds_safe (I := Left 8) ?_ ⟨by decide, by decide⟩) fun _ => Safe.pure ?_
  · intro k objects hk hleft
    refine Safe.bind_imp (pick_safe drawless_stocked (hleft.ne_nil (by omega))) fun item _ => ?_
    refine Safe.bind (Safe.lift (insertItem_stocked _)) fun _ => ?_
    refine offer_safe _ _ _ List.not_mem_nil (Safe.pure fun c hc => ?_)
    exact ⟨hleft.deleteMember item, hc⟩
  · rintro c ⟨-, hc⟩
    exact hc.supplied

theorem PrecisionPlacementTest1.generate_safe :
    Safe (Stocked [] []) (generate? rand) (generate rand) fun _ => Supplied := by
  refine Safe.bind_imp (pick_safe drawless_stocked (by decide)) fun source _ => ?_
  refine Safe.bind_imp (pick_safe drawless_stocked (by decide)) fun destination _ => ?_
  exact threeObjects_safe source destination

/-! ## Drawn objects and locations -/

theorem drawObjects_safe {P : Content → Prop} (hP : Drawless P) (m : ℕ) {objects : List ObjectId}
    (hobjects : objects ≠ []) :
    Safe P (drawObjects? rand m objects) (drawObjects rand m objects) fun drawn c =>
      drawn.length = m ∧ P c := by
  refine rounds_safe (I := fun k (drawn : List ObjectId) => drawn.length = k) ?_ rfl
  intro k drawn _ hlen
  refine Safe.bind_imp (pick_safe hP hobjects) fun item _ => Safe.pure fun c hc => ⟨?_, hc⟩
  rw [List.length_append, hlen, List.length_singleton]

/-- Of the locations, `m` are drawn, and the others are left. -/
theorem drawLocations_safe {P : Content → Prop} (hP : Drawless P) {n k m : ℕ}
    {locations : List LocationId} (hleft : Left n k locations) (hm : k + m ≤ n) :
    Safe P (drawLocations? rand m locations) (drawLocations rand m locations) fun r c =>
      (r.1.length = m ∧ Left n (k + m) r.2) ∧ P c := by
  refine rounds_safe (I := fun i (r : List LocationId × List LocationId) =>
    r.1.length = i ∧ Left n (k + i) r.2) ?_ ⟨rfl, hleft⟩
  rintro i r hi ⟨hlen, hleft⟩
  refine Safe.bind_imp (pick_safe hP (hleft.ne_nil (by omega))) fun location _ => ?_
  refine Safe.pure fun c hc => ⟨⟨?_, hleft.deleteMember location⟩, hc⟩
  rw [List.length_append, hlen, List.length_singleton]

/-! ## Decoys -/

/-- The extra items are of objects that no task transports. -/
def Decoyed (pool : List ObjectId) (c : Content) : Prop :=
  ∃ extra, Stocked pool extra c ∧ ∀ k ∈ extra, k.1 ∈ pool

theorem drawless_decoyed : Drawless (Decoyed pool) := by
  rintro c n ⟨extra, hc, hextra⟩
  exact ⟨extra, hc.draws n, hextra⟩

theorem Decoyed.supplied (h : Decoyed pool c) : Supplied c := by
  obtain ⟨extra, hc, hextra⟩ := h
  exact ⟨pool, extra, hc, fun k hk => .inl (hextra k hk)⟩

theorem Stocked.decoyed (h : Stocked pool [] c) : Decoyed pool c := by
  refine ⟨[], h, ?_⟩
  simp

theorem placeDecoys_safe (n : ℕ) {sources : List LocationId} (hpool : pool ≠ [])
    (hsources : sources ≠ []) :
    Safe (Decoyed pool) (placeDecoys? rand n pool sources)
      (loopForCount n () fun counter _ => do
        let item ← pick rand pool
        insertItem { objectId := item, locationId := some (inTurn counter sources) })
      fun _ => Decoyed pool := by
  refine loopForCount_safe (I := fun _ _ => Decoyed pool) (fun k _ _ => ?_) ()
  apply readInTurn_bind_safe hsources
  refine Safe.bind_imp (pick_safe drawless_decoyed hpool) fun item hitem => Safe.lift ?_
  rintro c ⟨extra, hc, hextra⟩
  refine ⟨_, insertItem_stocked _ c hc, ?_⟩
  rw [List.forall_mem_cons]
  exact ⟨hitem, hextra⟩

/-! ## The transportation tests -/

theorem BasicTransportationTest1.generate_safe :
    Safe (Stocked (robocupObjects ++ rockinObjects) []) (generate? rand) (generate rand)
      fun _ => Supplied := by
  refine Safe.bind_imp (drawLocations_safe drawless_stocked (n := 4) (k := 0)
    ⟨by decide, by decide⟩ (by decide)) ?_
  rintro locations ⟨hlen, hleft⟩
  have hsources : locations.1 ≠ [] := List.ne_nil_of_length_pos (by omega)
  refine Safe.bind ((loopForCount_safe
    (I := fun k decoys c => Left 13 k decoys ∧ Stocked decoys [] c) ?_ _).mono ?_
      fun _ _ hc => hc) fun decoys => ?_
  · intro k decoys hk
    apply Safe.of_imp
    intro hdecoys
    refine Safe.bind_imp (pick_safe drawless_stocked (by decide)) fun item _ => ?_
    -- from here on, the item is no decoy
    refine Safe.mono (P := Stocked (deleteMember decoys item) []) ?_
      (fun c hc => hc.mono fun o ho => (mem_deleteMember.mp ho).1) fun _ _ hc => hc
    apply readInTurn_bind_safe hsources
    refine Safe.bind (Safe.lift (insertItem_stocked _)) fun _ => ?_
    refine Safe.bind_imp (pick_safe drawless_stocked (hleft.ne_nil (by omega)))
      fun destination _ => ?_
    refine offer_safe _ _ _ ?_ (Safe.pure fun c hc => ⟨hdecoys.deleteMember item, hc⟩)
    rw [mem_deleteMember]
    exact fun hitem => hitem.2 rfl
  · exact fun c hc => ⟨⟨by decide, by decide⟩, hc⟩
  · apply Safe.of_imp
    intro hdecoys
    exact (placeDecoys_safe 3 (hdecoys.ne_nil (by omega)) hsources).mono
      (fun _ hc => hc.decoyed) fun _ _ hc => hc.supplied

theorem transport_safe {last : ℕ} {objects : List ObjectId} {sources destinations : List LocationId}
    (hlen : objects.length = last + 2) (hobjects : ∀ o ∈ objects, o ∉ pool)
    (hsources : sources ≠ []) (hdestinations : destinations ≠ []) :
    Safe (Stocked pool []) (transport? rand last objects sources destinations)
      (transport rand last objects sources destinations) fun _ => Stocked pool [] := by
  have hitem {i : ℕ} (hpos : 0 < i) (hle : i ≤ last + 2) : nth i objects ∉ pool :=
    hobjects _ (nth_mem hpos (by omega))
  refine Safe.bind (loopForCount_safe (I := fun _ _ => Stocked pool []) (fun k _ hk => ?_) ())
    fun _ => ?_
  · apply read_bind_safe (by omega) (by omega)
    apply readInTurn_bind_safe hsources
    apply readInTurn_bind_safe hdestinations
    refine Safe.bind (Safe.lift (insertItem_stocked _)) fun _ => ?_
    by_cases hlast : k + 1 = last
    · -- one more object goes to the container next to it
      rw [if_neg (not_not_intro hlast), if_neg (not_not_intro hlast)]
      refine offer_safe _ _ _ (hitem (by omega) (by omega)) ?_
      apply read_bind_safe (by omega) (by omega)
      apply readInTurn_bind_safe hsources
      refine Safe.bind (Safe.lift (insertItem_stocked _)) fun _ => ?_
      exact insert_offered_safe _ _ _ (hitem (by omega) (by omega))
    · rw [if_pos hlast, if_pos hlast]
      exact insert_offered_safe _ _ _ (hitem (by omega) (by omega))
  · apply read_bind_safe (by omega) (by omega)
    apply readInTurn_bind_safe hsources
    refine Safe.bind_imp (pick_safe drawless_stocked (by decide)) fun destination _ => ?_
    refine Safe.bind (Safe.lift (insertItem_stocked _)) fun _ => ?_
    exact insert_offered_safe _ _ _ (hitem (by omega) (by omega))

theorem BasicTransportationTest2.generate_safe :
    Safe (Stocked [] []) (generate? rand) (generate rand) fun _ => Supplied := by
  refine Safe.bind_imp (drawObjects_safe drawless_stocked 2 (by decide)) fun robocup hrobocup => ?_
  refine Safe.bind_imp (drawObjects_safe drawless_stocked 3 (by decide)) fun rockin hrockin => ?_
  have hlen : (robocup ++ rockin).length = 5 := by
    rw [List.length_append, hrobocup, hrockin]
  refine Safe.bind_imp (shuffle_safe drawless_stocked (List.ne_nil_of_length_pos (by omega)))
    fun objects hobjects => ?_
  refine Safe.bind_imp (drawLocations_safe drawless_stocked (n := 4) (k := 0)
    ⟨by decide, by decide⟩ (by decide)) ?_
  rintro locations ⟨hsources, hleft⟩
  refine Safe.bind_imp (pick_safe drawless_stocked (by decide)) fun shelf _ => ?_
  refine Safe.bind_imp (drawLocations_safe drawless_stocked hleft (by decide)) ?_
  rintro workstations ⟨hworkstations, -⟩
  refine Safe.bind_imp (shuffle_safe drawless_stocked (by simp))
    fun destinations hdestinations => ?_
  refine (transport_safe (hobjects.length_eq.trans hlen) ?_ ?_ ?_).post fun _ _ hc => hc.supplied
  · simp
  · exact List.ne_nil_of_length_pos (by omega)
  · apply List.ne_nil_of_length_pos
    rw [hdestinations.length_eq]
    simp

theorem BasicTransportationTest3.generate_safe :
    Safe Bare (generate? rand) (generate rand) fun _ => Supplied := by
  refine Safe.bind_imp (drawObjects_safe drawless_bare 4 (by decide)) fun robocup hrobocup => ?_
  refine Safe.bind_imp (drawObjects_safe drawless_bare 3 (by decide)) fun rockin hrockin => ?_
  have hlen : (robocup ++ rockin).length = 7 := by
    rw [List.length_append, hrobocup, hrockin]
  let decoys := (robocup ++ rockin).foldl deleteMember (robocupObjects ++ rockinObjects)
  have hall : Left 13 0 (robocupObjects ++ rockinObjects) := ⟨by decide, by decide⟩
  have hdecoys : Left 13 (0 + (robocup ++ rockin).length) decoys := hall.foldl_deleteMember _
  refine Safe.bind_imp (shuffle_safe drawless_bare (List.ne_nil_of_length_pos (by omega)))
    fun objects hobjects => ?_
  -- the sources
  refine Safe.bind_imp (pick_safe drawless_bare (by decide)) fun source0 _ => ?_
  refine Safe.bind_imp (pick_safe drawless_bare (by decide)) fun source15 _ => ?_
  refine Safe.bind_imp (pick_safe drawless_bare (by decide)) fun source10 _ => ?_
  have hworkstations : Left 10 0
      (workstation0cmLocations ++ workstation10cmLocations ++ workstation15cmLocations) :=
    ⟨by decide, by decide⟩
  have hleft := hworkstations.foldl_deleteMember [source0, source15, source10]
  refine Safe.bind_imp (pick_safe drawless_bare (hleft.ne_nil (by simp))) fun sourceAny _ => ?_
  have hleft' := hleft.deleteMember sourceAny
  refine Safe.bind_imp (shuffle_safe drawless_bare (by simp)) fun sources hsources => ?_
  -- the destinations
  have h0cm : Left 3 0 workstation0cmLocations := ⟨by decide, by decide⟩
  have h15cm : Left 3 0 workstation15cmLocations := ⟨by decide, by decide⟩
  have h10cm : Left 4 0 workstation10cmLocations := ⟨by decide, by decide⟩
  refine Safe.bind_imp (pick_safe drawless_bare ((h0cm.deleteMember source0).ne_nil (by decide)))
    fun destination0 _ => ?_
  refine Safe.bind_imp (pick_safe drawless_bare ((h15cm.deleteMember source15).ne_nil (by decide)))
    fun destination15 _ => ?_
  refine Safe.bind_imp (pick_safe drawless_bare ((h10cm.deleteMember source10).ne_nil (by decide)))
    fun destination10 _ => ?_
  have hleft'' := hleft'.foldl_deleteMember [destination0, destination15, destination10]
  refine Safe.bind_imp (pick_safe drawless_bare (hleft''.ne_nil (by simp)))
    fun destinationAny _ => ?_
  refine Safe.bind_imp (shuffle_safe drawless_bare (by simp)) fun destinations hdestinations => ?_
  have hsources' : sources ≠ [] := by
    apply List.ne_nil_of_length_pos
    simp [hsources.length_eq]
  have hdestinations' : destinations ≠ [] := by
    apply List.ne_nil_of_length_pos
    simp [hdestinations.length_eq]
  -- the objects of the tasks are no decoys
  have hobjects' : ∀ o ∈ objects, o ∉ decoys := by
    intro o ho hdecoy
    exact (mem_foldl_deleteMember.mp hdecoy).2 (hobjects.mem_iff.mp ho)
  refine Safe.bind ((transport_safe (hobjects.length_eq.trans hlen) hobjects' hsources'
    hdestinations').mono (fun _ hc => hc.stocked decoys) fun _ _ hc => hc) fun _ => ?_
  exact (placeDecoys_safe 3 (hdecoys.ne_nil (by omega)) hsources').mono
    (fun _ hc => hc.decoyed) fun _ _ hc => hc.supplied

/-! ## Finals -/

/-- The task transports an object from a location. -/
def Task.Offers (t : Task) (k : ObjectId × LocationId) : Prop :=
  ∃ tt, t.transportationTask = some tt ∧ tt.objectId = k.1 ∧ tt.sourceId = some k.2

theorem transports_of_offers {ts : List Task} {keys : List (ObjectId × LocationId)}
    (h : List.Forall₂ Task.Offers ts keys) :
    (transports ts).map TransportationTask.key = keys.map (fun k => (k.1, some k.2)) ∧
      ∀ tt ∈ transports ts, tt.sourceId.isSome := by
  induction h with
  | nil => simp [transports]
  | @cons t k ts keys ht _ ih =>
      obtain ⟨tt, htt, hobject, hsource⟩ := ht
      have hcons : transports (t :: ts) = tt :: transports ts := by
        simp [transports, htt]
      rw [hcons, List.map_cons, List.map_cons, ih.1, List.forall_mem_cons, TransportationTask.key,
        hobject, hsource]
      exact ⟨rfl, rfl, ih.2⟩

/-- Several offers, one after the other. -/
theorem offers_triple {P : Content → Prop} {xs : List (Generate Task)}
    {K : List (ObjectId × LocationId)}
    (h : List.Forall₂ (fun x k => Triple P x fun t c => t.Offers k ∧ P c) xs K) :
    Triple P (xs.mapM id) fun ts c => List.Forall₂ Task.Offers ts K ∧ P c := by
  induction h with
  | nil =>
      rw [List.mapM_nil]
      exact Triple.pure fun c hc => ⟨.nil, hc⟩
  | cons hx _ ih =>
      rw [List.mapM_cons]
      refine Triple.bind_imp hx fun t ht => ?_
      refine Triple.bind_imp ih fun ts hts => ?_
      exact Triple.pure fun c hc => ⟨.cons ht hts, hc⟩

/-- The inventory of the finals, before there are tasks. -/
def Placed (items : List Item) (c : Content) : Prop := c.items = items ∧ c.tasks = []

theorem offer_placed {items : List Item} (item : ObjectId) (s d : LocationId)
    (box : Option ObjectId) :
    Triple (Placed items) (offerTransportation item s d box) fun t c =>
      t.Offers (item, s) ∧ Placed items c :=
  fun _ hc => ⟨⟨_, rfl, rfl, rfl⟩, hc⟩

/-- The items of the finals are those of the tasks, the decoys and the containers. -/
theorem stock_supplied {placed keys : List (ObjectId × LocationId)} {decoys : List Item}
    {d : LocationId} {ts : List Task} (hperm : placed.Perm keys)
    (hts : List.Forall₂ Task.Offers ts keys) (hplaced : ∀ k ∈ keys, k.1 ∉ pool)
    (hdecoys : ∀ item ∈ decoys, item.objectId ∈ pool)
    (hitems : c.items = AtWorkFinal2016.stock placed decoys d) (htasks : c.tasks = ts) :
    Supplied c := by
  obtain ⟨hkeys, hsources⟩ := transports_of_offers hts
  refine ⟨pool, decoys.map Item.key ++ [(.containerB, some d), (.containerR, some d)],
    ⟨?_, ?_, ?_⟩, ?_⟩
  · rw [hitems, htasks, hkeys, AtWorkFinal2016.stock]
    simp only [List.map_append, List.map_map, List.append_assoc]
    exact (hperm.map _).append_right _
  · rw [htasks]
    intro tt htt
    have hmem : tt.key ∈ keys.map (fun k => (k.1, some k.2)) := by
      rw [← hkeys]
      exact List.mem_map_of_mem htt
    obtain ⟨k, hk, heq⟩ := List.mem_map.mp hmem
    have hobject : k.1 = tt.objectId := congrArg Prod.fst heq
    rw [← hobject]
    exact hplaced k hk
  · rw [htasks]
    exact hsources
  · intro k hk
    rw [List.mem_append] at hk
    rcases hk with hk | hk
    · obtain ⟨item, hitem, rfl⟩ := List.mem_map.mp hk
      exact .inl (hdecoys item hitem)
    · right
      simp only [List.mem_cons, List.not_mem_nil, or_false] at hk
      rcases hk with rfl | rfl
      · exact .inl rfl
      · exact .inr rfl

theorem AtWorkFinal2016.generate_safe :
    Safe Bare (generate? rand) (generate rand) fun _ => Supplied := by
  refine Safe.bind_imp (drawObjects_safe drawless_bare 4 (by decide)) fun robocup hrobocup => ?_
  refine Safe.bind_imp (drawObjects_safe drawless_bare 5 (by decide)) fun rockin hrockin => ?_
  refine Safe.bind_imp (pick_safe drawless_bare (by decide)) fun item1 _ => ?_
  have hlen : (robocup ++ rockin).length = 9 := by
    rw [List.length_append, hrobocup, hrockin]
  refine Safe.bind_imp (shuffle_safe drawless_bare (List.ne_nil_of_length_pos (by omega)))
    fun objects hobjects => ?_
  have hlen' : objects.length = 9 := hobjects.length_eq.trans hlen
  apply read_bind_safe (by omega) (by omega)
  apply read_bind_safe (by omega) (by omega)
  apply read_bind_safe (by omega) (by omega)
  apply read_bind_safe (by omega) (by omega)
  apply read_bind_safe (by omega) (by omega)
  apply read_bind_safe (by omega) (by omega)
  apply read_bind_safe (by omega) (by omega)
  apply read_bind_safe (by omega) (by omega)
  apply read_bind_safe (by omega) (by omega)
  -- the sources
  refine Safe.bind_imp (pick_safe drawless_bare (by decide)) fun source1 _ => ?_
  refine Safe.bind_imp (pick_safe drawless_bare (by decide)) fun source2 _ => ?_
  refine Safe.bind_imp (pick_safe drawless_bare (by decide)) fun source3 _ => ?_
  refine Safe.bind_imp (pick_safe drawless_bare (by decide)) fun source4 hsource4 => ?_
  have h5cm : (deleteMember workstation5cmLocations source4).length + 1 = 2 :=
    length_deleteMember (by decide) hsource4
  apply read_bind_safe (by omega) (by omega)
  let kept := nth 1 (deleteMember workstation5cmLocations source4)
  refine Safe.bind_imp (pick_safe drawless_bare (by decide)) fun source5 _ => ?_
  refine Safe.bind_imp (pick_safe drawless_bare (by decide)) fun source6 _ => ?_
  have hworkstations : Left 12 0 (workstation0cmLocations ++ workstation5cmLocations ++
    workstation10cmLocations ++ workstation15cmLocations) := ⟨by decide, by decide⟩
  have hleft := hworkstations.foldl_deleteMember [source3, source4, kept, source5, source6]
  refine Safe.bind_imp (pick_safe drawless_bare (hleft.ne_nil (by simp))) fun source7 _ => ?_
  refine Safe.bind_imp (shuffle_safe drawless_bare (by simp)) fun sources hsources => ?_
  have hsources' : sources.length = 5 := hsources.length_eq
  apply read_bind_safe (by omega) (by omega)
  apply read_bind_safe (by omega) (by omega)
  apply read_bind_safe (by omega) (by omega)
  apply read_bind_safe (by omega) (by omega)
  apply read_bind_safe (by omega) (by omega)
  -- the destinations
  have h0cm : Left 3 0 workstation0cmLocations := ⟨by decide, by decide⟩
  have h10cm : Left 4 0 workstation10cmLocations := ⟨by decide, by decide⟩
  have h15cm : Left 3 0 workstation15cmLocations := ⟨by decide, by decide⟩
  refine Safe.bind_imp (pick_safe drawless_bare (by decide)) fun destination1 _ => ?_
  refine Safe.bind_imp (pick_safe drawless_bare (by decide)) fun destination2 _ => ?_
  refine Safe.bind_imp (pick_safe drawless_bare ((h0cm.deleteMember source3).ne_nil (by decide)))
    fun destination3 _ => ?_
  refine Safe.bind_imp (pick_safe drawless_bare (List.ne_nil_of_length_pos (by omega)))
    fun destination4 _ => ?_
  refine Safe.bind_imp (pick_safe drawless_bare ((h10cm.deleteMember source5).ne_nil (by decide)))
    fun destination5 _ => ?_
  refine Safe.bind_imp (pick_safe drawless_bare ((h15cm.deleteMember source6).ne_nil (by decide)))
    fun destination6 _ => ?_
  have hleft' := (hleft.deleteMember source7).foldl_deleteMember
    [destination3, destination4, destination5, destination6]
  refine Safe.bind_imp (pick_safe drawless_bare (hleft'.ne_nil (by simp))) fun destination7 _ => ?_
  refine Safe.bind_imp (shuffle_safe drawless_bare (by simp)) fun destinations hdestinations => ?_
  have hdestinations' : destinations.length = 5 := hdestinations.length_eq
  apply read_bind_safe (by omega) (by omega)
  apply read_bind_safe (by omega) (by omega)
  apply read_bind_safe (by omega) (by omega)
  apply read_bind_safe (by omega) (by omega)
  apply read_bind_safe (by omega) (by omega)
  -- the objects of the tasks are no decoys
  let items := [item1, nth 1 objects, nth 2 objects, nth 3 objects, nth 4 objects, nth 5 objects,
    nth 6 objects, nth 7 objects, nth 8 objects, nth 9 objects]
  have hall : Left 13 0 (robocupObjects ++ rockinObjects) := ⟨by decide, by decide⟩
  have hdecoys := hall.foldl_deleteMember items
  have hpool : items.foldl deleteMember (robocupObjects ++ rockinObjects) ≠ [] :=
    hdecoys.ne_nil (by simp [items])
  have hitems : ∀ o ∈ items, o ∉ items.foldl deleteMember (robocupObjects ++ rockinObjects) :=
    fun o ho hmem => (mem_foldl_deleteMember.mp hmem).2 ho
  refine Safe.bind_imp (drawObjects_safe drawless_bare 5 hpool) fun _ _ => ?_
  refine Safe.bind_imp (rounds_safe (P := Bare) (I := fun _ (decoys : List Item) =>
    ∀ item ∈ decoys, item.objectId ∈ items.foldl deleteMember (robocupObjects ++ rockinObjects))
      ?_ (by simp)) fun decoys hdecoys => ?_
  · intro k decoys _ hdecoys
    refine Safe.bind_imp (pick_safe drawless_bare hpool) fun objectId hobject => ?_
    refine Safe.bind_imp (pick_safe drawless_bare (by simp)) fun locationId _ => ?_
    refine Safe.pure fun c hc => ⟨?_, hc⟩
    rw [List.forall_mem_append, List.forall_mem_singleton]
    exact ⟨hdecoys, hobject⟩
  let others : List (ObjectId × LocationId) :=
    [(nth 1 objects, source1), (nth 2 objects, source2), (nth 3 objects, source2),
      (nth 4 objects, nth 1 sources), (nth 5 objects, nth 2 sources),
      (nth 6 objects, nth 2 sources), (nth 7 objects, nth 3 sources),
      (nth 8 objects, nth 3 sources), (nth 9 objects, nth 4 sources)]
  let first : ObjectId × LocationId := (item1, nth 5 sources)
  refine Safe.bind (Safe.modify (Q := Placed (stock (others ++ [first]) decoys
    (nth 5 destinations))) ?_) fun _ => ?_
  · rintro c ⟨hc, hc'⟩
    refine ⟨?_, hc'⟩
    show _ ++ c.items = _
    rw [hc, List.append_nil]
    rfl
  refine Safe.bind_imp (Safe.lift (offers_triple (K := first :: others) ?_)) fun ts hts => ?_
  · exact .cons (offer_placed _ _ _ _) (.cons (offer_placed _ _ _ _) (.cons (offer_placed _ _ _ _)
      (.cons (offer_placed _ _ _ _) (.cons (offer_placed _ _ _ _) (.cons (offer_placed _ _ _ _)
        (.cons (offer_placed _ _ _ _) (.cons (offer_placed _ _ _ _) (.cons (offer_placed _ _ _ _)
          (.cons (offer_placed _ _ _ _) .nil)))))))))
  refine Safe.modify fun c hc => ?_
  refine stock_supplied (List.perm_append_singleton _ _) hts ?_ hdecoys hc.1 ?_
  · intro k hk
    apply hitems
    have hmap : k.1 ∈ (first :: others).map Prod.fst := List.mem_map_of_mem hk
    exact hmap
  · show ts ++ c.tasks = ts
    rw [hc.2, List.append_nil]

/-! ## The scenarios -/

namespace Scenario

theorem generate_safe (scenario : Scenario) :
    Safe Bare (scenario.generate? rand) (scenario.generate rand) fun _ => Supplied := by
  have hbare {pool} : ∀ c, Bare c → Stocked pool [] c := fun c hc => hc.stocked pool
  cases scenario with
  | none => exact Safe.pure fun c hc => (hc.stocked []).supplied
  | bnt1 => exact BasicNavigationTest1.generate_safe.mono hbare fun _ _ hc => hc
  | bmt1 => exact BasicManipulationTest1.generate_safe.mono hbare fun _ _ hc => hc
  | btt1 => exact BasicTransportationTest1.generate_safe.mono hbare fun _ _ hc => hc
  | btt2 => exact BasicTransportationTest2.generate_safe.mono hbare fun _ _ hc => hc
  | btt3 => exact BasicTransportationTest3.generate_safe
  | ppt1 => exact PrecisionPlacementTest1.generate_safe.mono hbare fun _ _ hc => hc
  | cbt1 => exact (threeObjects_safe _ _).mono hbare fun _ _ hc => hc
  | cbt2 => exact (threeObjects_safe _ _).mono hbare fun _ _ hc => hc
  | awf1 => exact AtWorkFinal2016.generate_safe

/-- **Generated tasks and inventory match**: every task finds its object at its source, no task
transports a decoy, and every list that is read has the position. -/
theorem generated_match (scenario : Scenario) (rand : ℕ → ℕ) (c : Content) (hitems : c.items = [])
    (htasks : c.tasks = []) :
    (scenario.generate? rand).run c = some ((scenario.generate rand).run c) ∧
      Matched ((scenario.generate rand).run c).2.items
        (transports ((scenario.generate rand).run c).2.tasks) := by
  obtain ⟨hrun, hsupplied⟩ := generate_safe scenario c ⟨hitems, htasks⟩
  exact ⟨hrun, hsupplied.matched⟩

theorem generated_match_of_awf1 :
    (awf1.generate? id).run {} = some ((awf1.generate id).run {}) ∧
      Matched ((awf1.generate id).run {}).2.items
        (transports ((awf1.generate id).run {}).2.tasks) :=
  generated_match awf1 id {} rfl rfl

end Scenario

end FactoryHub.AtWork
