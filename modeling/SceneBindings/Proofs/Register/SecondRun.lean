import SceneBindings.Proofs.Register.FirstRun
import SceneBindings.Proofs.Registry.Outcomes

/-!
Registering a scene whose nodes are all passed over. A stored registry is bound to the nodes that its
paths lead to, and then nothing is left to do.
-/

namespace SceneBindings

open Forest

namespace Workspace

open Registry

variable {u v w : Workspace} {s : SceneId} {k : Key} {i : RefId}

/-! ### Following moved nodes -/

lemma Idle.ids (h : Idle s w v) : v.registry.ids = w.registry.ids := by
  obtain ⟨c, -, hv⟩ := h.registry
  rw [hv]
  rfl

lemma Idle.reference (h : Idle s w v) (i : RefId) :
    v.registry.reference i = w.registry.reference i := by
  obtain ⟨c, -, hv⟩ := h.registry
  rw [hv]
  rfl

lemma Idle.stored (h : Idle s w v) : v.registry.stored = w.registry.stored := by
  obtain ⟨c, -, hv⟩ := h.registry
  rw [hv]
  rfl

/-- A reference is bound to a node of the scene, and has the path of that node. -/
def InPlace (s : SceneId) (w : Workspace) (i : RefId) : Prop :=
  ∃ k ∈ w.forest.walk s, (w.registry.reference i).binding = .bound k ∧
    (w.registry.reference i).path = w.forest.fullPath k

lemma Idle.inPlace (h : Idle s w v) (hi : InPlace s w i) : InPlace s v i := by
  rw [InPlace, h.forest, h.reference]
  exact hi

lemma idle_refreshOne (h : w.Tracks s) (hi : InPlace s w i) : Idle s w (w.refreshOne i).1 := by
  obtain ⟨k, hk, hbound, hplace⟩ := hi
  obtain ⟨hidle, hpath⟩ := idle_pathOf h hk
  simp only [refreshOne, hbound, Binding.node?]
  split
  · exact .refl h
  · rw [if_pos (by rw [hpath, hplace]; exact beq_self_eq_true _)]
    exact hidle

lemma idle_refreshEach (h : w.Tracks s) {is : List RefId} (his : ∀ i ∈ is, InPlace s w i) :
    Idle s w (w.refreshEach is).1 := by
  induction is generalizing w with
  | nil => exact .refl h
  | cons i is ih =>
    rw [List.forall_mem_cons] at his
    have hone := idle_refreshOne h his.1
    exact hone.trans (ih (hone.tracks h) fun j hj => hone.inPlace (his.2 j hj))

lemma idle_refreshPaths (h : w.Tracks s) (his : ∀ i ∈ w.registry.ids, InPlace s w i) :
    Idle s w w.refreshPaths.1 :=
  idle_refreshEach h his

/-! ### Binding -/

/-- Every path leads to a live node, and no two to the same. -/
structure Leading (s : SceneId) (f : Forest) (g : Registry) : Prop where
  alive : ∀ k, f.IsAlive k
  leads : ∀ i ∈ g.ids, ∃ k, f.findByPath? s (g.reference i).path = some k
  apart : ∀ i ∈ g.ids, ∀ j ∈ g.ids,
    f.findByPath? s (g.reference i).path = f.findByPath? s (g.reference j).path → i = j

/-- If every path leads to a node of its own, all references are bound again. -/
lemma bound_bindScene (hleading : Leading s w.forest w.registry) (hn : w.registry.ids.Nodup)
    (hlt : ∀ i ∈ w.registry.ids, i < w.registry.store.length) :
    ∀ i ∈ w.registry.ids, ∃ k, w.forest.findByPath? s (w.registry.reference i).path = some k ∧
      ((w.bindScene s).1.registry.reference i).binding = .bound k := by
  have hlive : ∀ i k, w.forest.liveAt? s (w.registry.reference i).path = some k ↔
      w.forest.findByPath? s (w.registry.reference i).path = some k := fun i k => by
    rw [liveAt?_eq_some, and_iff_left (hleading.alive k)]
  have hpaths : Unambiguous w.forest s w.registry := by
    intro i hi j hj k hik hjk
    rw [hlive] at hik hjk
    rw [hleading.apart i hi j hj (hik.trans hjk.symm)]
  intro i hi
  obtain ⟨k, hk⟩ := hleading.leads i hi
  refine ⟨k, hk, ((dealt_bindScene hn hlt hpaths).bound i hi k).mpr ⟨(hlive i k).mpr hk, ?_⟩⟩
  exact firstAt?_of_alone hi fun j hj hji => hleading.apart j hj i hi (by rw [hji])

lemma trusted_attach_new (f : Forest) (s : SceneId) : ((PathCache.new f).attach f s).Trusted f s where
  settled n _ path hpath := by
    have hget := (PathCache.get?_sync_eq_some.mp hpath).1
    simp [PathCache.attach, PathCache.sync, PathCache.forget, PathCache.new, Table.get?, Table.empty,
      Table.lookup] at hget
  seen := by simp [PathCache.attach, PathCache.sync, PathCache.forget, PathCache.new]
  follows := by simp [PathCache.attach, PathCache.sync, PathCache.forget, PathCache.new]

/-- The workspace in which a document has been bound to a scene. -/
def restored (f : Forest) (s : SceneId) (d : RegistryDocument) : Workspace :=
  (bindScene ⟨f, .ofDocument f d, none, []⟩ s).1

section Restored

variable {f : Forest} {d : RegistryDocument}

lemma restored_frame (hd : d.scene ≠ "") :
    (restored f s d).namer = none ∧
      (restored f s d).registry.cache = (PathCache.new f).attach f s ∧
      (restored f s d).registry.sceneName = d.scene := by
  obtain ⟨-, hcache, hscene, hname⟩ := ofDocument_fields f d
  obtain ⟨store, byPath, byKey, events, -, heq⟩ := bindScene_frame ⟨f, .ofDocument f d, none, []⟩ s
  rw [restored, heq]
  refine ⟨rfl, ?_, ?_⟩
  · simp only [attach, resetPanels, hscene, hcache]
  · simp only [attach, resetPanels, hname]
    rw [if_neg (by simpa using hd)]

/-- Whatever can be bound, the bound registry follows the scene and is stored as the document. -/
lemma tracks_restored {ts : List NodeSpec} (hf : f.Planted ts) (horderly : Renaming.Orderly f)
    (hscene : d.scene ≠ "") : (restored f 0 d).forest = f ∧ (restored f 0 d).Tracks 0 ∧
      (restored f 0 d).registry.stored = d := by
  have hfresh : (Registry.ofDocument f d).Fresh := fresh_origin (.document d) f
  obtain ⟨-, hcache, hname⟩ := restored_frame (f := f) (s := 0) hscene
  obtain ⟨hforest, all, -, hrebuilt⟩ := rebuilt_bindScene (w := ⟨f, .ofDocument f d, none, []⟩) 0
    hfresh.nodup hfresh.stored
  rw [← restored] at hforest hrebuilt
  refine ⟨hforest, ⟨?_, ?_, ?_, ?_⟩, ?_⟩
  · rw [hforest]
    exact hf.housed
  · rw [hforest]
    exact horderly
  · rw [hforest]
    exact hf.alive
  · rw [hforest, hcache]
    exact trusted_attach_new f 0
  · rw [hrebuilt.stored_eq, hname, (ofDocument_fields f d).1]

/-- A bound document: every reference is bound to the node that its path leads to. -/
structure Restored (s : SceneId) (d : RegistryDocument) (w : Workspace) : Prop where
  inPlace : ∀ i ∈ w.registry.ids, InPlace s w i
  taken : ∀ p ∈ d.paths, w.registry.hasPath p = true

/-- Distinct canonical paths that all lead to nodes do not lead to the same. -/
lemma leading_ofDocument {ts : List NodeSpec} (hf : f.Planted ts) (hvalid : d.Valid)
    (hnodup : d.paths.Nodup) (hfound : ∀ p ∈ d.paths, (f.findByPath? 0 p).isSome = true) :
    Leading 0 f (.ofDocument f d) := by
  have hfresh : (Registry.ofDocument f d).Fresh := fresh_origin (.document d) f
  have hmem : ∀ i ∈ (Registry.ofDocument f d).ids,
      ((Registry.ofDocument f d).reference i).path ∈ d.paths := fun i hi => by
    rw [← paths_ofDocument f d]
    exact List.mem_map_of_mem (List.mem_map_of_mem hi)
  refine ⟨hf.alive, fun i hi => Option.isSome_iff_exists.mp (hfound _ (hmem i hi)),
    fun i hi j hj heq => ?_⟩
  obtain ⟨k, hk⟩ := Option.isSome_iff_exists.mp (hfound _ (hmem i hi))
  have hfull : ∀ p ∈ d.paths, f.findByPath? 0 p = some k → f.fullPath k = p := fun p hp hp' =>
    (fullPath_of_findByPath? hf.wellFormed hf.housed.parentless (hvalid.path p hp) hp').2
  refine (pathsDistinct_iff hfresh.nodup).mpr (by rwa [paths_ofDocument]) i hi j hj ?_
  rw [← hfull _ (hmem i hi) hk, ← hfull _ (hmem j hj) (heq ▸ hk)]

/-- A document of distinct canonical paths is restored if all of them lead to nodes. -/
lemma restored_of_found {ts : List NodeSpec} (hf : f.Planted ts) (hvalid : d.Valid)
    (hnodup : d.paths.Nodup) (hfound : ∀ p ∈ d.paths, (f.findByPath? 0 p).isSome = true) :
    Restored 0 d (restored f 0 d) := by
  have hfresh : (Registry.ofDocument f d).Fresh := fresh_origin (.document d) f
  obtain ⟨w, hw⟩ : ∃ w, w = restored f 0 d := ⟨_, rfl⟩
  obtain ⟨hforest, all, hall, hr⟩ := rebuilt_bindScene (w := ⟨f, .ofDocument f d, none, []⟩) 0
    hfresh.nodup hfresh.stored
  have hbound := bound_bindScene (w := ⟨f, .ofDocument f d, none, []⟩)
    (leading_ofDocument hf hvalid hnodup hfound) hfresh.nodup hfresh.stored
  rw [← restored, ← hw] at hforest hr hbound
  rw [← hw]
  have hids : ∀ i, i ∈ w.registry.ids ↔ i ∈ all := by
    intro i
    rw [hall, Registry.ids, hr.categories]
    rfl
  have hpath : ∀ p, p ∈ d.paths ↔ ∃ i ∈ all, (w.registry.reference i).path = p := by
    intro p
    rw [← paths_ofDocument f d, references, List.map_map, List.mem_map]
    exact exists_congr fun i => by rw [hall, Function.comp_apply, hr.path]
  constructor
  case inPlace =>
    intro i hi
    have hi := (hids i).mp hi
    obtain ⟨k, hk, hbound⟩ := hbound i ((hall i).mp hi)
    rw [← hr.path] at hk
    obtain ⟨hnode, hfull⟩ := fullPath_of_findByPath? hf.wellFormed hf.housed.parentless
      (hvalid.path _ ((hpath _).mpr ⟨i, hi, rfl⟩)) hk
    exact ⟨k, hforest ▸ hf.mem_walk.mpr hnode, hbound, by rw [hforest, hfull]⟩
  case taken =>
    intro p hp
    obtain ⟨i, hi, rfl⟩ := (hpath p).mp hp
    obtain ⟨k, -, hbound⟩ := hbound i ((hall i).mp hi)
    have hfind := (hr.bound i hi k hbound).2.1
    rw [findPath?] at hfind
    rw [hasPath, Table.contains, hfind]
    rfl

end Restored

/-! ### Passing over all nodes -/

lemma PassedOver.congr (hk : w.PassedOver k) (hf : v.forest = w.forest) (hn : v.namer = w.namer)
    (hkey : v.registry.hasKey k = w.registry.hasKey k)
    (hpath : ∀ p, v.registry.hasPath p = w.registry.hasPath p) : v.PassedOver k := by
  have hproposed : v.proposed k = w.proposed k := by rw [proposed, proposed, hn, name, name, hf]
  have hname : v.name k = w.name k := by rw [name, name, hf]
  cases hk with
  | unknown role => exact .unknown (by rwa [hf])
  | known key => exact .known (by rwa [hkey])
  | taken renamed path => exact .taken (by rwa [hproposed, hname]) (by rwa [hproposed, hpath, hf])
  | barred kept path => exact .barred (by rwa [hproposed, hname]) (by rwa [Barred, hf, hpath])

lemma Idle.passedOver_iff (h : Idle s w v) : v.PassedOver k ↔ w.PassedOver k := by
  have hkey : v.registry.hasKey k = w.registry.hasKey k := by rw [hasKey, h.byKey, hasKey]
  exact ⟨fun hk => hk.congr h.forest.symm h.namer.symm hkey.symm fun p => (h.hasPath p).symm,
    fun hk => hk.congr h.forest h.namer hkey h.hasPath⟩

/-- Where every node is passed over, nothing happens. -/
lemma idle_registerNodes (h : w.Tracks s) {ks : List Key}
    (hks : ∀ k ∈ ks, k ∈ w.forest.walk s ∧ w.PassedOver k) :
    ∃ v, Cli.registerNodes w ks = (v, .ok ()) ∧ Idle s w v := by
  induction ks generalizing w with
  | nil => exact ⟨w, rfl, .refl h⟩
  | cons k ks ih =>
    rw [List.forall_mem_cons] at hks
    obtain ⟨u, hu, hidle⟩ := registerNode_of_passedOver h hks.1.1 hks.1.2
    obtain ⟨v, hv, hidle'⟩ := ih (hidle.tracks h) fun j hj => by
      rw [hidle.forest]
      exact ⟨(hks.2 j hj).1, hidle.passedOver_iff.mpr (hks.2 j hj).2⟩
    exact ⟨v, by rw [Cli.registerNodes, hu]; exact hv, hidle.trans hidle'⟩

/-- A node without a reference keeps its name, or the path that it would get is taken. -/
def Steady (w : Workspace) (k : Key) : Prop :=
  w.registry.hasKey k = false → w.proposed k = w.name k ∨
    w.registry.hasPath (w.forest.pathUnder k (w.proposed k)) = true

/-- A node that had its turn is passed over from then on, if it is steady. -/
lemma passedOver_of_placed (hplaced : w.Placed k) (hsteady : w.Steady k) : w.PassedOver k := by
  cases hknown : w.registry.hasKey k with
  | true => exact .known hknown
  | false =>
    by_cases hkept : w.proposed k = w.name k
    · rcases hplaced with hrole | hbarred | hother
      · exact .unknown hrole
      · exact .barred hkept hbarred
      · exact absurd hkept hother
    · exact .taken hkept ((hsteady hknown).resolve_left hkept)

end Workspace

end SceneBindings
