import SceneBindings.Proofs.Registry.Runs

/-!
The states that an action passes through. Each comes from the one before by an operation on a single
node, reference or panel; the references that are repaired are missing when their turn comes, and those
that are moved are listed.
-/

namespace SceneBindings.Workspace

open Registry

variable {w : Workspace}

/-- One step of an action: the action itself, or its work on one node or reference. -/
inductive Stage (w : Workspace) : Action → Workspace → Prop where
  | edit (e : Forest.Edit) : Stage w (.edit e) { w with forest := w.forest.edit e }
  | add (k : Option Key) (probe : Probe) (standardize : Option Bool) :
      Stage w (.add k probe standardize) (w.add k probe standardize).1
  | addEach (k : Option Key) (probe : Probe) (ks : List (Option Key)) :
      Stage w (.addMany probe ks) (w.add k probe none).1
  | remove (key : ElementKey) : Stage w (.remove key) (w.remove key).1
  | bindScene (s : SceneId) : Stage w (.bindScene s) (w.bindScene s).1
  | repairEach {given : Option SceneId} {i : RefId} (s : SceneId) (gone : i ∈ w.missing) :
      Stage w (.repair given) (w.repairOne s i).1
  | dropEach {i : RefId} (listed : i ∈ w.registry.ids) : Stage w .removeMissing (w.drop i)
  | refreshEach {i : RefId} (listed : i ∈ w.registry.ids) :
      Stage w .refreshPaths (w.refreshOne i).1
  | setPanelActive (key : ElementKey) (isActive others keepLast : Bool) :
      Stage w (.setPanelActive key isActive others keepLast)
        (w.setPanelActive key isActive others keepLast).1
  | togglePanel (key : ElementKey) : Stage w (.togglePanel key) (w.togglePanel key).1
  | isPanelVisible (key : ElementKey) : Stage w (.isPanelVisible key) (w.isPanelVisible key).1
  | activate (k : Key) (exclusive keepLast : Bool) :
      Stage w (.activate k exclusive keepLast) (w.activate k exclusive keepLast)
  | deactivate (k : Key) : Stage w (.deactivate k) (w.deactivate k)

lemma mem_missing {i : RefId} : i ∈ w.missing ↔
    i ∈ w.registry.ids ∧ (w.registry.reference i).isBound w.forest = false := by
  simp [missing]

lemma byKey_index_ne_none {g : Registry} {f : Forest} (i : RefId) {k : Key}
    (hk : g.byKey.get? k ≠ none) : (g.index f i).byKey.get? k ≠ none := by
  rw [index]
  dsimp only
  split
  · split
    · rw [Table.get?_put]
      split
      · exact Option.some_ne_none _
      · exact hk
    · exact hk
  · exact hk

/-- The forest, the lists and the panels are as they were, no key is lost, and only one reference may
have changed. -/
structure Touches (i : RefId) (w v : Workspace) : Prop where
  forest : v.forest = w.forest
  categories : v.registry.categories = w.registry.categories
  active : v.registry.active = w.registry.active
  lastActive : v.registry.lastActive = w.registry.lastActive
  keys : ∀ k, w.registry.byKey.get? k ≠ none → v.registry.byKey.get? k ≠ none
  length : v.registry.store.length = w.registry.store.length
  others : ∀ j, j ≠ i → v.registry.reference j = w.registry.reference j

namespace Touches

variable {v : Workspace} {i : RefId}

lemma of_tables (h : ∃ cache byPath events,
    v = { w with registry := { w.registry with cache, byPath }, events }) : Touches i w v := by
  obtain ⟨cache, byPath, events, rfl⟩ := h
  exact ⟨rfl, rfl, rfl, rfl, fun _ hk => hk, rfl, fun _ _ => rfl⟩

lemma of_index (h : ∃ cache byPath u events, v = { w with
    registry := ({ w.registry with cache, byPath }.modify i u).index w.forest i, events }) :
    Touches i w v := by
  obtain ⟨cache, byPath, u, events, rfl⟩ := h
  refine ⟨rfl, rfl, rfl, rfl, fun _ hk => byKey_index_ne_none i hk, List.length_modify .., ?_⟩
  exact fun j hji => (reference_modify _ i j u).trans (if_neg fun h => hji h.1)

lemma ids (h : Touches i w v) : v.registry.ids = w.registry.ids := by
  rw [Registry.ids, h.categories, Registry.ids]

end Touches

/-- A repair may change the reference that it is for. -/
lemma touches_repairOne (w : Workspace) (s : SceneId) (i : RefId) :
    Touches i w (w.repairOne s i).1 := by
  have hcases := repairs_repairOne w s i
  generalize w.repairOne s i = r at hcases ⊢
  cases hcases with
  | unmatched => exact .of_tables ⟨_, _, _, rfl⟩
  | barred => exact .of_tables ⟨_, _, _, rfl⟩
  | fixed => exact .of_index ⟨_, _, _, _, rfl⟩

/-- The references whose turn is still to come are missing when it comes. -/
lemma missing_repairOne {s : SceneId} {i : RefId} {is : List RefId}
    (his : ∀ j ∈ i :: is, j ∈ w.missing) (hi : i ∉ is) : ∀ j ∈ is, j ∈ (w.repairOne s i).1.missing := by
  intro j hj
  have htouches := touches_repairOne w s i
  have hji : j ≠ i := by
    rintro rfl
    exact hi hj
  rw [mem_missing, htouches.ids, htouches.forest, htouches.others j hji]
  exact mem_missing.mp (his j (List.mem_cons_of_mem i hj))

/-- Following a node may change its reference, but not the binding. -/
lemma touches_refreshOne (w : Workspace) (i : RefId) : Touches i w (w.refreshOne i).1 ∧
    ((w.refreshOne i).1.registry.reference i).binding = (w.registry.reference i).binding := by
  have hcases := refreshes_refreshOne w i
  generalize w.refreshOne i = r at hcases ⊢
  cases hcases with
  | unbound => exact ⟨.of_tables ⟨_, _, _, rfl⟩, rfl⟩
  | kept => exact ⟨.of_tables ⟨_, _, _, rfl⟩, rfl⟩
  | refused => exact ⟨.of_tables ⟨_, _, _, rfl⟩, rfl⟩
  | moved =>
    refine ⟨.of_index ⟨_, _, _, _, rfl⟩, ?_⟩
    refine (congrArg Reference.binding (reference_modify _ i i _)).trans ?_
    split <;> rfl

lemma ids_refreshEach (w : Workspace) (is : List RefId) :
    (w.refreshEach is).1.registry.ids = w.registry.ids := by
  induction is generalizing w with
  | nil => rfl
  | cons i is ih => exact (ih _).trans (touches_refreshOne w i).1.ids

lemma isChain_addTrail (w : Workspace) (probe : Probe) {ks all : List (Option Key)} :
    (w :: w.addTrail probe ks).IsChain fun u v => Stage u (.addMany probe all) v := by
  induction ks generalizing w with
  | nil => exact .singleton w
  | cons k ks ih =>
    have hadd := Stage.addEach (w := w) k probe all
    rw [addTrail]
    split
    · next h => exact .cons_cons (by rwa [h] at hadd) (.singleton _)
    · next h => exact .cons_cons (by rwa [h] at hadd) (ih _)

lemma isChain_repair (s : SceneId) {given : Option SceneId} {is : List RefId} (hn : is.Nodup)
    (hgone : ∀ i ∈ is, i ∈ w.missing) :
    (w :: trail (fun w i => (w.repairOne s i).1) w is).IsChain fun u v =>
      Stage u (.repair given) v := by
  induction is generalizing w with
  | nil => exact .singleton w
  | cons i is ih =>
    rw [List.nodup_cons] at hn
    exact .cons_cons (.repairEach s (hgone i List.mem_cons_self)) (ih hn.2 (missing_repairOne hgone hn.1))

lemma isChain_drop {is : List RefId} (hn : is.Nodup) (hids : ∀ i ∈ is, i ∈ w.registry.ids) :
    (w :: trail drop w is).IsChain fun u v => Stage u .removeMissing v := by
  induction is generalizing w with
  | nil => exact .singleton w
  | cons i is ih =>
    rw [List.nodup_cons] at hn
    refine .cons_cons (.dropEach (hids i List.mem_cons_self)) (ih hn.2 fun j hj => ?_)
    have hji : j ≠ i := by
      rintro rfl
      exact hn.1 hj
    have hdrop : (w.drop i).registry.ids =
        (removeMember i (w.registry.reference i).capability.label w.registry.categories).flatMap
          (·.members) := ids_drop w.registry w.forest i
    rw [hdrop]
    exact mem_removeMember_of_ne (hids j (List.mem_cons_of_mem _ hj)) hji

lemma isChain_refresh {is : List RefId} (hids : ∀ i ∈ is, i ∈ w.registry.ids) :
    (w :: trail (fun w i => (w.refreshOne i).1) w is).IsChain fun u v =>
      Stage u .refreshPaths v := by
  induction is generalizing w with
  | nil => exact .singleton w
  | cons i is ih =>
    refine .cons_cons (.refreshEach (hids i List.mem_cons_self)) (ih fun j hj => ?_)
    rw [(touches_refreshOne w i).1.ids]
    exact hids j (List.mem_cons_of_mem _ hj)

/-- Where the lists hold each reference once, an action is a chain of such steps. -/
lemma isChain_stages (hn : w.registry.ids.Nodup) (a : Action) :
    (w :: w.stages a).IsChain fun u v => Stage u a v := by
  have hone : ∀ {v}, Stage w a v → [w, v].IsChain fun u v => Stage u a v :=
    fun h => .cons_cons h (.singleton _)
  cases a with
  | edit e => exact hone (.edit e)
  | add k probe standardize => exact hone (.add k probe standardize)
  | addMany probe ks => exact isChain_addTrail w probe
  | remove key => exact hone (.remove key)
  | bindScene s => exact hone (.bindScene s)
  | repair s =>
    rw [stages]
    split
    · exact isChain_repair _ (hn.filter _) fun i hi => hi
    · exact .singleton w
  | removeMissing => exact isChain_drop (hn.filter _) fun i hi => (mem_missing.mp hi).1
  | refreshPaths => exact isChain_refresh fun i hi => hi
  | setPanelActive key isActive others keepLast =>
    exact hone (.setPanelActive key isActive others keepLast)
  | togglePanel key => exact hone (.togglePanel key)
  | isPanelVisible key => exact hone (.isPanelVisible key)
  | activate k exclusive keepLast => exact hone (.activate k exclusive keepLast)
  | deactivate k => exact hone (.deactivate k)

/-! ### What the work on one node or reference keeps -/

/-- The panels are as they were, and no listed reference, no key and no binding is lost. -/
structure Grows (w v : Workspace) : Prop where
  active : v.registry.active = w.registry.active
  lastActive : v.registry.lastActive = w.registry.lastActive
  ids : ∀ i ∈ w.registry.ids, i ∈ v.registry.ids
  keys : ∀ k, w.registry.byKey.get? k ≠ none → v.registry.byKey.get? k ≠ none
  length : w.registry.store.length ≤ v.registry.store.length
  bindings : ∀ i < w.registry.store.length,
    (v.registry.reference i).binding = (w.registry.reference i).binding

namespace Grows

variable {u v : Workspace}

lemma of_tables (h : ∃ cache byPath, v.registry = { w.registry with cache, byPath }) :
    Grows w v := by
  obtain ⟨cache, byPath, hv⟩ := h
  constructor <;> rw [hv]
  · exact fun i hi => hi
  · exact fun k hk => hk
  · exact fun i _ => rfl

lemma trans (h : Grows w u) (h' : Grows u v) : Grows w v where
  active := h'.active.trans h.active
  lastActive := h'.lastActive.trans h.lastActive
  ids i hi := h'.ids i (h.ids i hi)
  keys k hk := h'.keys k (h.keys k hk)
  length := h.length.trans h'.length
  bindings i hi := (h'.bindings i (hi.trans_le h.length)).trans (h.bindings i hi)

lemma report (w : Workspace) (d : Diagnostic) : Grows w (w.report d) := of_tables ⟨_, _, rfl⟩

lemma pathOf (w : Workspace) (k : Key) : Grows w (w.pathOf k).1 := of_tables ⟨_, _, rfl⟩

lemma insert (w : Workspace) (r : Reference) :
    Grows w { w with registry := (w.registry.insert w.forest r).1 } where
  active := rfl
  lastActive := rfl
  ids i hi := (mem_addMember w.registry.categories).mpr (.inr hi)
  keys k hk := byKey_index_ne_none _ hk
  length := by simp [Registry.insert, index]
  bindings i hi := congrArg Reference.binding (reference_append w.registry r i hi)

end Grows

/-- Giving a node its canonical name changes nothing in the registry but the remembered paths. -/
lemma cache_standardizeNew (w : Workspace) (k : Key) :
    ∃ cache, (w.standardizeNew k).1.registry = { w.registry with cache } := by
  obtain ⟨-, cache, h⟩ | ⟨-, cache, h⟩ := standardizeNew_cases w k <;> exact ⟨cache, by rw [h]⟩

namespace Grows

variable {u v : Workspace}

lemma addAsIs (w : Workspace) (k : Key) (probe : Probe) : Grows w (w.addAsIs k probe).1 := by
  have hp : Grows w (w.pathOf k).1 := .pathOf w k
  rw [Workspace.addAsIs]
  dsimp only
  split
  · exact hp.trans (.report _ _)
  · split
    · exact hp.trans (.report _ _)
    · split
      · exact hp
      · exact hp.trans (.insert _ _)

lemma add (w : Workspace) (k : Option Key) (probe : Probe) (standardize : Option Bool) :
    Grows w (w.add k probe standardize).1 := by
  cases k with
  | none => exact .report w _
  | some k =>
    rw [Workspace.add, addNode]
    split
    · exact .report w _
    · split
      · exact .report w _
      · split
        · obtain ⟨cache, hcache⟩ := cache_standardizeNew w k
          have hz : Grows w (w.standardizeNew k).1 := of_tables ⟨cache, _, hcache⟩
          split
          · next h =>
            rw [h] at hz
            exact hz.trans (.report _ _)
          · next h =>
            rw [h] at hz
            exact hz.trans (.addAsIs _ k probe)
          · next h => rwa [h] at hz
        · exact .addAsIs w k probe

/-- Following a node does not touch bindings. -/
lemma refreshOne (w : Workspace) (i : RefId) : Grows w (w.refreshOne i).1 := by
  obtain ⟨htouches, hself⟩ := touches_refreshOne w i
  refine ⟨htouches.active, htouches.lastActive, fun j hj => htouches.ids ▸ hj, htouches.keys,
    htouches.length.ge, fun j _ => ?_⟩
  by_cases hji : j = i
  · rw [hji, hself]
  · rw [htouches.others j hji]

end Grows

end SceneBindings.Workspace
