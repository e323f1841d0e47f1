import SceneBindings.Proofs.Register.Growth
import SceneBindings.Proofs.Register.Stages
import SceneBindings.Validation.Lax
import SceneBindings.Value.Equality
import SceneBindings.Value.Flow

/-!
Registering a scene twice. The second time nothing is done if each stored path leads back to a node
and each node without a reference keeps its name. A path that leads nowhere is registered once more.
-/

namespace SceneBindings

open Forest

namespace Files

variable [Yaml] {fs fs' : Files} {f : Forest} {p : DiskPath} {v : Value}

/-- What is written for a value is read as this value. -/
def Restores (v : Value) : Prop := (FileContent.document v).document? = some v

instance (v : Value) : Decidable (Restores v) := inferInstanceAs (Decidable (_ = _))

/-- If a file holds a document, then it is read as what was stored in it. -/
def Faithful (fs : Files) (p : DiskPath) : Prop :=
  ∀ v, fs.get? p = some (.document v) → Restores v

instance (fs : Files) (p : DiskPath) : Decidable (Faithful fs p) :=
  match h : fs.get? p with
  | some (.document v) => decidable_of_iff (Restores v) (by simp [Faithful, h])
  | none | some (.text _) | some .garbled | some .directory => isTrue (by simp [Faithful, h])

lemma readRegistry_of_absent [Validator] (h : fs.exists? p = false) :
    fs.readRegistry f p = .ok (.blank f) := by
  rw [readRegistry, h]
  rfl

lemma readScene_of_document (h : fs.get? p = some (.document v)) (hv : Restores v) :
    fs.readScene p = .ok v := by
  rw [readScene, read_eq_ok_iff.mpr ⟨h, rfl⟩]
  dsimp only
  rw [hv]

/-- A scene that was read is read again from a file that holds the same. -/
lemma readScene_kept (h : fs.readScene p = .ok v) : ∃ c, fs.get? p = some c ∧
    ∀ fs' : Files, fs'.get? p = some c → fs'.readScene p = .ok v := by
  rw [readScene] at h
  split at h
  · cases h
  · next c hc =>
    obtain ⟨hget, hfile⟩ := read_eq_ok_iff.mp hc
    refine ⟨c, hget, fun fs' hget' => ?_⟩
    rw [readScene, read_eq_ok_iff.mpr ⟨hget', hfile⟩]
    exact h

lemma readRegistry_of_document [Validator] {d : RegistryDocument} (hd : d.Valid)
    (h : fs.get? p = some (.document d.write)) (hrestores : Restores d.write) :
    fs.readRegistry f p = .ok (.ofDocument f d) := by
  obtain ⟨fields, hfields, hread⟩ := RegistryDocument.read_write hd
  have hexists : fs.exists? p = true := by rw [exists?, h]; rfl
  rw [Restores] at hrestores
  rw [readRegistry, hexists, read_eq_ok_iff.mpr ⟨h, rfl⟩]
  simp only [Bool.not_true, Bool.false_eq_true, if_false, hrestores, hfields, hread]

end Files

namespace Cli

open Files Workspace Registry

variable {s : Settings} {f : Forest} {ts : List NodeSpec} {u : Workspace}

lemma Reads.unique [Yaml] [Validator] {fs : Files} {f f' : Forest} {scene scene' : SceneId}
    {g g' : Registry} (h : Reads s fs f scene g) (h' : Reads s fs f' scene' g') : f = f' ∧ scene = scene' ∧ g = g' := by
  obtain ⟨v, events, hv, hloaded⟩ := h.scene
  obtain ⟨v', events', hv', hloaded'⟩ := h'.scene
  rw [hv] at hv'
  cases hv'
  rw [hloaded] at hloaded'
  cases hloaded'
  have hg := h.registry
  rw [h'.registry] at hg
  cases hg
  exact ⟨rfl, rfl, rfl⟩

/-! ### The first registration -/

/-- Nothing is registered yet. -/
lemma midway_registering (hf : f.Planted ts) (horderly : Renaming.Orderly f) :
    Midway ts 1 (registering s f 0 (.blank f)) := by
  have hsame : ∀ w : Workspace, w.forest = f → w.registry.cache = (PathCache.new f).attach f 0 →
      w.registry.ids = [] → w.registry.byPath = .empty → w.registry.byKey = .empty →
        Midway ts 1 w := by
    intro w hforest hcache hids hpaths hkeys
    constructor
    case planted => rwa [hforest]
    case tracks =>
      refine ⟨hforest ▸ hf.housed, hforest ▸ horderly, hforest ▸ hf.alive, ?_⟩
      rw [hforest, hcache]
      exact trusted_attach_new f 0
    case sound =>
      refine ⟨by rw [hids]; exact List.nodup_nil, by rw [hids]; exact List.forall_mem_nil _,
        fun p i hp => ?_, ?_⟩
      · rw [findPath?, hpaths] at hp
        cases hp
      · rw [hids]
        exact List.forall_mem_nil _
    case unique => exact unique_of_no_ids hids
    case entered =>
      rw [hids]
      exact List.forall_mem_nil _
    case known =>
      intro k hk
      rw [hasKey, hkeys] at hk
      cases hk
    case placed =>
      intro k hk hnode
      have := (isNode_iff.mp hnode).1
      omega
  exact hsame _ rfl rfl rfl rfl rfl

lemma sceneName_registering (hscene : (f.scene 0).name ≠ "") :
    (registering s f 0 (.blank f)).registry.sceneName = (f.scene 0).name := by
  have hempty : ((f.scene 0).name.isEmpty) = false := by simpa using hscene
  change (if (if ("" : String).isEmpty then (f.scene 0).name else "").isEmpty then (f.scene 0).name
    else (if ("" : String).isEmpty then (f.scene 0).name else "")) = _
  simp [hempty]

lemma namer_registering (s : Settings) (f g) : (registering s f 0 g).namer =
    if s.naming.onAdd then some (newStandardizer s) else none := by
  have hopened : (opened f 0 g).namer = none := namer_bindScene _ 0
  rw [registering, hopened]

/-- Nothing is renamed when a registration starts. -/
lemma renamed_registering {g : Registry} {z : Standardizer} (hz : (registering s f 0 g).namer = some z) :
    z.renamed = 0 := by
  rw [namer_registering] at hz
  split at hz
  · cases hz
    rfl
  · cases hz

/-- A registration ends with a refresh, which finds nothing to do if all references are in place. -/
lemma idle_refreshed {w : Workspace} (htracks : w.Tracks 0)
    (hinPlace : ∀ i ∈ w.registry.ids, InPlace 0 w i) :
    Idle 0 w { (refreshPaths { w with events := [] }).1 with events := [] } := by
  obtain ⟨housed, orderly, alive, trusted⟩ := htracks
  have hidle : Idle 0 { w with events := [] } (refreshPaths { w with events := [] }).1 :=
    idle_refreshPaths ⟨housed, orderly, alive, trusted⟩ hinPlace
  exact ⟨hidle.forest, hidle.namer, hidle.registry⟩

/-- All nodes have had their turn, and what they came to is kept. -/
lemma registered (hf : f.Planted ts) (horderly : Renaming.Orderly f)
    (h : Settles (registering s f 0 (.blank f)) 0 u) :
    Midway ts (f.nodes.length + 1) u ∧ Proceeds (registering s f 0 (.blank f)) u := by
  obtain ⟨v, hv, rfl⟩ := h
  have hforest : (registering s f 0 (.blank f)).forest = f := rfl
  rw [hforest, hf.walk] at hv
  obtain ⟨hmidway, hproceeds⟩ := (midway_registering (s := s) hf horderly).registerNodes
    (n := f.nodes.length) (Nat.le_refl 1) (Nat.add_comm _ _) hv
  rw [Nat.add_comm] at hmidway
  have hinPlace : ∀ i ∈ v.registry.ids, InPlace 0 v i := by
    intro i hi
    obtain ⟨k, -, hnode, -, hbound, hpath⟩ := hmidway.entered i hi
    exact ⟨k, hmidway.planted.mem_walk.mpr hnode, hbound, hpath⟩
  have hidle := idle_refreshed hmidway.tracks hinPlace
  exact ⟨hmidway.moves (hidle.moves _), hproceeds.trans (hidle.moves 0).proceeds⟩

/-- The registry stays where it was stored when the scene is stored after it. -/
lemma Stores.seated {scene : SceneId} {before after : Files} {v : Value}
    (h : Stores s scene u before after) (hapart : before.land s.scenePath ≠ before.land s.registryPath)
    (hv : u.registry.document = .ok v) : Seated s.registryPath (.document v) after := by
  obtain ⟨v', files, hv', hwrites, hlast⟩ := h.registry
  obtain rfl := Except.ok.inj (hv.symm.trans hv')
  rcases hlast with ⟨-, rfl⟩ | ⟨-, v', files', -, hfirst, hsecond⟩
  · exact hwrites.seated rfl
  · have hland := fun q => land_congr hwrites.current q
    have hland' := fun q => (land_congr hfirst.current q).trans (hland q)
    refine hsecond.keeps_seated rfl (hfirst.keeps_seated rfl (hwrites.seated rfl) ?_) ?_
    · rw [hland, hland]
      exact hapart.symm
    · rw [hland', hland']
      exact hapart.symm

/-- What the first registration leaves: a scene that is as it was left but for what components hold,
and the registry as it was stored. -/
structure Left [Yaml] [Validator] (s : Settings) (ts : List NodeSpec) (u : Workspace) (fs : Files)
    (f : Forest) : Prop where
  midway : Midway ts (f.nodes.length + 1) u
  sceneName : u.registry.sceneName ≠ ""
  rule : u.namer.map (·.respectsExisting) =
    if s.naming.onAdd then some s.naming.respectExisting else none
  reads : Reads s fs f 0 (.ofDocument f u.registry.stored)
  alike : Alike u.forest f
  seated : Seated s.registryPath (.document u.registry.stored.write) fs
  valid : u.registry.stored.Valid

/-- The first registration of a project. -/
lemma left_of_register [Yaml] [Validator] {d d' : Desk} {n : Nat}
    (hnew : d.files.exists? s.registryPath = false)
    (hapart : d.files.land s.scenePath ≠ d.files.land s.registryPath)
    (hgenuine : SaysRenamed d' → ∀ v, d.files.readScene s.scenePath = .ok v → GenuineScene v)
    (hfaithful : ∀ p ∈ [s.scenePath, s.registryPath], Faithful d'.files p)
    (h : (Cli.register s).run d = (.ok n, d')) : ∃ ts u f, Left s ts u d'.files f := by
  obtain ⟨f, scene, g, u, hreads, hsettles, hstores, htold⟩ := stages_of_register h
  obtain ⟨v, events, hv, hloaded⟩ := hreads.scene
  obtain ⟨rfl, hscene, horderly, ts, hf⟩ := Renaming.orderly_of_loadScene hloaded
  obtain rfl : Registry.blank f = g := by
    have hg := hreads.registry
    rw [readRegistry_of_absent hnew] at hg
    exact Except.ok.inj hg
  obtain ⟨hmidway, hproceeds⟩ := registered hf horderly hsettles
  have hname : u.registry.sceneName ≠ "" := by
    rw [hproceeds.sceneName, sceneName_registering hscene]
    exact hscene
  have hrule : u.namer.map (·.respectsExisting) =
      if s.naming.onAdd then some s.naming.respectExisting else none := by
    rw [hproceeds.counted.sameRule, namer_registering]
    split <;> rfl
  have hrestoresScene := hfaithful s.scenePath List.mem_cons_self
  have hrestoresRegistry := hfaithful s.registryPath (List.mem_cons_of_mem _ List.mem_cons_self)
  obtain ⟨c, hc, hkeptScene⟩ := readScene_kept hv
  obtain ⟨v₂, files, hdocument, hwrites, hlast⟩ := hstores.registry
  have hseated := hstores.seated hapart hdocument
  obtain ⟨hvalid, rfl⟩ := document_eq_ok.mp hdocument
  have hregistry := fun f => readRegistry_of_document (f := f) hvalid hseated.here
    (hrestoresRegistry _ hseated.here)
  rcases hlast with ⟨hstill, hfiles⟩ | ⟨⟨z, hz, hrenamed⟩, v₃, files', hv₃, hfirst, hsecond⟩
  · rw [← hfiles] at hwrites
    have hforest : u.forest = f :=
      hproceeds.counted.forest_eq (fun _ => renamed_registering) hstill
    have hv₂ := hkeptScene d'.files (hwrites.kept rfl hc hapart)
    exact ⟨ts, u, f, hmidway, hname, hrule, ⟨⟨v, events, hv₂, hloaded⟩, hregistry f⟩,
      hforest ▸ ⟨.refl u.forest, fun _ => rfl⟩, hseated, hvalid⟩
  · have hscene' : (u.forest.scene 0).name ≠ "" := by
      rw [Forest.scene, scene?, hproceeds.forest.scenes]
      exact hscene
    have hsays : SaysRenamed d' := htold.resolve_left fun hno => hrenamed (hno.1 z hz)
    have hordinary : u.forest.Ordinary :=
      (ordinary_of_loadScene hloaded (hgenuine hsays v hv)).renamed hproceeds.forest
    obtain ⟨g, events', hloaded', halike⟩ :=
      alike_of_writeScene hmidway.planted hordinary hscene' hmidway.tracks.orderly.names hv₃
    have hstored := (hsecond.seated rfl).here
    have hlength : g.nodes.length = f.nodes.length :=
      halike.length.trans hproceeds.forest.length
    exact ⟨ts, u, g, hlength ▸ hmidway, hname, hrule,
      ⟨⟨v₃, events', readScene_of_document hstored (hrestoresScene _ hstored), hloaded'⟩,
        hregistry g⟩, halike, hseated, hvalid⟩

/-! ### The second registration -/

/-- Names are settled: a node without a reference keeps its name, or else the path that it would get
is taken, and no reference has its path now. -/
def Settled (w : Workspace) (s : SceneId) : Prop :=
  ∀ k ∈ w.forest.walk s, w.registry.hasKey k = false → w.proposed k = w.name k ∨
    w.registry.hasPath (w.forest.pathUnder k (w.proposed k)) = true ∧
      w.forest.fullPath k ∉ w.registry.stored.paths

instance (w : Workspace) (s : SceneId) : Decidable (Settled w s) :=
  inferInstanceAs (Decidable (∀ k ∈ w.forest.walk s, _ → _))

/-- A registration that succeeds, says that it added nothing, and leaves all files as they are. -/
def AddsNothing [Yaml] [Validator] (s : Settings) (d : Desk) : Prop :=
  ∃ d' total, (Cli.register s).run d = (.ok 0, d') ∧
    d'.events.getLast? = some (.line ("✅ Registered 0 new elements (" ++ total ++ " total)")) ∧
      ∀ x, d.files.agreeAt d'.files x = true

lemma opened_eq_restored {d : RegistryDocument} (hd : d.scene ≠ "") :
    opened f 0 (.ofDocument f d) = restored f 0 d := by
  have hname : (Registry.ofDocument f d).sceneName.isEmpty = false := by
    rw [(ofDocument_fields f d).2.2.2]
    simpa using hd
  rw [opened, hname]
  rfl

lemma mem_stored_paths {g : Registry} {p : String} :
    p ∈ g.stored.paths ↔ ∃ i ∈ g.ids, (g.reference i).path = p := by
  rw [paths_stored, references, List.map_map, List.mem_map]
  rfl

namespace Left

variable [Yaml] [Validator] {fs : Files} (h : Left s ts u fs f)
include h

lemma planted : f.Planted ts := h.alike.planted h.midway.planted

lemma orderly : Renaming.Orderly f := by
  obtain ⟨v, events, -, hloaded⟩ := h.reads.scene
  exact (Renaming.orderly_of_loadScene hloaded).2.2.1

/-- The workspace in which the second registration starts. -/
lemma start : ∃ w, w = registering s f 0 (.ofDocument f u.registry.stored) ∧ w.forest = f ∧
    w.Tracks 0 ∧ w.registry = (restored f 0 u.registry.stored).registry ∧
      w.registry.stored = u.registry.stored ∧ SameRule u w := by
  obtain ⟨hforest, ⟨housed, horderly, halive, htrusted⟩, hstored⟩ :=
    tracks_restored (d := u.registry.stored) h.planted h.orderly h.sceneName
  have hopened := opened_eq_restored (f := f) (d := u.registry.stored) h.sceneName
  have hregistry : (registering s f 0 (.ofDocument f u.registry.stored)).registry =
      (restored f 0 u.registry.stored).registry := by rw [registering, hopened]
  have hforest' : (registering s f 0 (.ofDocument f u.registry.stored)).forest =
      (restored f 0 u.registry.stored).forest := by rw [registering, hopened]
  refine ⟨_, rfl, hforest'.trans hforest, ?_, hregistry, hregistry ▸ hstored, ?_⟩
  · rw [← hforest'] at housed horderly halive htrusted
    exact ⟨housed, horderly, halive, hregistry ▸ htrusted⟩
  · rw [SameRule, h.rule, namer_registering]
    split <;> rfl

lemma fullPath_eq (k : Key) : f.fullPath k = u.forest.fullPath k :=
  h.alike.toReshaped.fullPath_eq fun a _ => h.alike.name a

lemma classify_eq (k : Key) : f.classify k = u.forest.classify k :=
  Forest.classify_eq (h.alike.shape k) (h.alike.name k)

/-- If all stored paths lead to nodes, all nodes have had their turn for the second registration
too. -/
lemma placed {w : Workspace} (hforest : w.forest = f) (hrule : SameRule u w)
    (htaken : ∀ p ∈ u.registry.stored.paths, w.registry.hasPath p = true) {k : Key}
    (hk : f.IsNode k) : w.Placed k := by
  have hk' : u.forest.IsNode k := h.alike.isNode_iff.mp hk
  refine (h.midway.placed k (Nat.lt_succ_of_le (isNode_iff.mp hk).2) hk').mono ?_ ?_ ?_ hrule
    fun p hp => htaken p ?_
  · rw [name, hforest, h.alike.name, name]
  · rw [hforest, h.classify_eq]
  · rw [hforest, h.fullPath_eq]
  · obtain ⟨i, hi⟩ := Option.isSome_iff_exists.mp hp
    exact mem_stored_paths.mpr ⟨i, (h.midway.sound.entry p i hi).symm⟩

/-- If all stored paths lead to nodes and names are settled, all nodes are passed over. -/
lemma addsNothing {d : Desk} (hd : d.files = fs)
    (hsettled : Settled (registering s f 0 (.ofDocument f u.registry.stored)) 0)
    (hfound : ∀ p ∈ u.registry.stored.paths, (f.findByPath? 0 p).isSome = true) :
    AddsNothing s d := by
  obtain ⟨w, hw, hforest, htracks, hregistry, hstored, hrule⟩ := h.start
  have hnodup : u.registry.stored.paths.Nodup := by
    rw [paths_stored]
    exact (distinct_of_unique h.midway.sound.nodup h.midway.unique).paths
  obtain ⟨hinPlace, htaken⟩ := restored_of_found h.planted h.valid hnodup hfound
  rw [← hregistry] at htaken
  rw [← hw] at hsettled
  have hpassed : ∀ k ∈ w.forest.walk 0, k ∈ w.forest.walk 0 ∧ w.PassedOver k := fun k hk =>
    ⟨hk, passedOver_of_placed (h.placed hforest hrule htaken (h.planted.mem_walk.mp (hforest ▸ hk)))
      fun hnew => (hsettled k hk hnew).imp id And.left⟩
  obtain ⟨v, hv, hidle⟩ := idle_registerNodes htracks hpassed
  have hforest' : w.forest = (restored f 0 u.registry.stored).forest :=
    hforest.trans (tracks_restored h.planted h.orderly h.sceneName).1.symm
  have hinPlace' : ∀ i ∈ v.registry.ids, InPlace 0 v i := by
    intro i hi
    refine hidle.inPlace ?_
    rw [InPlace, hforest', hregistry]
    rw [hidle.ids, hregistry] at hi
    exact hinPlace i hi
  have hlast := hidle.trans (idle_refreshed (hidle.tracks htracks) hinPlace')
  obtain ⟨y, hy⟩ : ∃ y : Workspace,
      y = { (refreshPaths { v with events := [] }).1 with events := [] } := ⟨_, rfl⟩
  rw [← hy] at hlast
  have hstill : ∀ z, y.namer = some z → z.renamed = 0 := fun z hz =>
    renamed_registering (hw ▸ hlast.namer ▸ hz)
  have hdocument : y.registry.document = .ok u.registry.stored.write := by
    rw [document_eq_ok, hlast.stored, hstored]
    exact ⟨h.valid, rfl⟩
  obtain ⟨files, hwrites, -, hsame⟩ := h.seated.rewrites rfl
  obtain ⟨d', hrun, hfiles, htold⟩ := register_of_stages (d := d) (hd ▸ h.reads)
    ⟨v, hw ▸ hv, hy⟩ hstill hdocument (hd ▸ hwrites)
  have hsize : y.registry.size = w.registry.size := by
    obtain ⟨c, -, hc⟩ := hlast.registry
    rw [hc]
    rfl
  refine ⟨d', toString y.registry.size, hrun, ?_, fun x => agreeAt_of_at?_eq ?_⟩
  · rw [htold, ← hw, hsize, registeredLine_self]
  · rw [hfiles, hd, hsame]

/-- If nothing is added to a scene whose names are settled, all stored paths lead to nodes. -/
lemma found_of_addsNothing {d : Desk} (hd : d.files = fs)
    (hsettled : Settled (registering s f 0 (.ofDocument f u.registry.stored)) 0)
    (hnothing : AddsNothing s d) :
    ∀ p ∈ u.registry.stored.paths, (f.findByPath? 0 p).isSome = true := by
  obtain ⟨w, hw, hforest, htracks, hregistry, hstored, -⟩ := h.start
  rw [← hw] at hsettled
  obtain ⟨d', total, hrun, htold, -⟩ := hnothing
  obtain ⟨f', scene, g, y, hreads, ⟨v, hv, hy⟩, -, hlast⟩ := stages_of_register hrun
  rw [hd] at hreads
  obtain ⟨rfl, rfl, rfl⟩ := h.reads.unique hreads
  rw [← hw] at hv hlast
  -- the line that is said last tells that the registry is as large as it was
  have hsize : y.registry.size = w.registry.size := by
    obtain ⟨-, hlast⟩ | ⟨count, hlast⟩ := hlast
    · exact eq_of_registeredLine (Event.line.inj (Option.some.inj (hlast.symm.trans htold)))
    · exact absurd (Event.line.inj (Option.some.inj (hlast.symm.trans htold)))
        (renamedLine_ne count total)
  have hids : v.registry.ids.length = w.registry.ids.length := by
    have hrefreshed : y.registry.ids = v.registry.ids := by
      rw [hy]
      exact ids_refreshEach _ _
    rw [← hrefreshed]
    exact hsize
  have hpassed := (registerNodes_of_steady htracks
    (fun k hk => ⟨hk, fun hnew => (hsettled k hk hnew).imp id And.left⟩) hv).2 hids
  intro p hp
  obtain ⟨i, hi, rfl⟩ := mem_stored_paths.mp hp
  obtain ⟨k, -, hnode, hrole, -, hpath⟩ := h.midway.entered i hi
  have hk : k ∈ w.forest.walk 0 := hforest ▸ h.planted.mem_walk.mpr (h.alike.isNode_iff.mpr hnode)
  have hfull : w.forest.fullPath k = (u.registry.reference i).path := by
    rw [hforest, h.fullPath_eq, hpath]
  have hled : Led 0 w := (led_restored f 0 u.registry.stored).of_tables
    (hforest.trans (tracks_restored h.planted h.orderly h.sceneName).1.symm) (by rw [hregistry])
    (by rw [hregistry])
  have hroots : ∀ r ∈ w.forest.roots 0, (w.forest.node r).parent = none := by
    rw [hforest]
    exact h.planted.housed.parentless
  obtain ⟨j, hj⟩ := found_of_passedOver hled (hforest ▸ h.planted.wellFormed) hroots
    (fun l p hl => canonical_byKey_restored h.valid (hregistry ▸ hl))
    (fun hnew => (hsettled k hk hnew).resolve_right fun hno => hno.2 (hfull ▸ hstored ▸ hp))
    (hfull ▸ h.valid.path _ hp) (by rw [hforest, h.classify_eq]; exact hrole) (hpassed k hk)
  rw [← hfull, ← hforest, hj]
  rfl

end Left

/-- The workspace in which the next registration of a project starts, if there is one. -/
def reopened [Yaml] [Validator] (s : Settings) (fs : Files) : Option Workspace :=
  match fs.readScene s.scenePath with
  | .error _ => none
  | .ok v =>
    let loaded := Forest.empty.loadScene v
    match loaded.result, fs.readRegistry loaded.forest s.registryPath with
    | .ok i, .ok g => some (registering s loaded.forest i g)
    | _, _ => none

lemma Reads.reopened [Yaml] [Validator] {fs : Files} {scene : SceneId} {g : Registry}
    (h : Reads s fs f scene g) : reopened s fs = some (registering s f scene g) := by
  obtain ⟨v, events, hv, hloaded⟩ := h.scene
  have hg := h.registry
  simp only [Cli.reopened, hv, hloaded, hg]

/-- **Registering twice.** If no registry is stored yet, then a second registration, of a scene whose
names are settled, adds nothing and changes no file exactly if every stored path leads to a node. A scene
in which nodes were renamed is one whose components are what their kinds say, and what is read are the
documents as they were stored. -/
theorem register_twice [Yaml] [Validator] {d d' : Desk} {n : Nat}
    (hnew : d.files.exists? s.registryPath = false)
    (hapart : d.files.land s.scenePath ≠ d.files.land s.registryPath)
    (hgenuine : SaysRenamed d' → ∀ v, d.files.readScene s.scenePath = .ok v → GenuineScene v)
    (hfaithful : ∀ p ∈ [s.scenePath, s.registryPath], Faithful d'.files p)
    (h : (Cli.register s).run d = (.ok n, d')) : ∃ w, reopened s d'.files = some w ∧
      (Settled w 0 → (AddsNothing s d' ↔
        ∀ p ∈ w.registry.stored.paths, (w.forest.findByPath? 0 p).isSome = true)) := by
  obtain ⟨ts, u, f, hleft⟩ := left_of_register hnew hapart hgenuine hfaithful h
  refine ⟨_, hleft.reads.reopened, fun hsettled => ?_⟩
  obtain ⟨w, hw, hforest, -, -, hstored, -⟩ := hleft.start
  rw [← hw, hforest, hstored]
  exact ⟨hleft.found_of_addsNothing rfl hsettled, hleft.addsNothing rfl hsettled⟩

/-! ### Two scenes -/

def describedNode (name : String) (components children : List Value) : Value :=
  .object [("name", .text name), ("components", .list components), ("children", .list children)]

def describedButton (name : String) : Value := describedNode name [.text "Button"] []

/-- A project that has nothing but a scene. -/
def sceneDesk (root : Value) : Desk :=
  ⟨(Files.bare ["scenes"]).put ["scenes", "sample_scene.yaml"]
    (.document (.object [("scene", .text "Main"), ("roots", .list [root])])),
    [], ⟨2024, 1, 1, 12, 0, 0⟩, []⟩

/-- A project after one more registration. -/
def nextDesk [Validator] (s : Settings) (d : Desk) : Desk := ((Cli.register s).run d).2

def storedPaths [Validator] (s : Settings) (d : Desk) : Option (List String) :=
  (reopened s d.files).map (·.registry.stored.paths)

lemma run_eq_nextDesk [Validator] {d : Desk} {n : Nat}
    (h : ((Cli.register s).run d).1.toOption = some n) : (Cli.register s).run d = (.ok n, nextDesk s d) := by
  rw [nextDesk]
  rcases hr : (Cli.register s).run d with ⟨e | m, d'⟩
  · rw [hr] at h
    cases h
  · rw [hr] at h
    cases h
    rfl

/-- A button is renamed and stored, and nothing is left to do. -/
theorem register_twice_of_button :
    let s := Settings.default ⟨.single, []⟩
    let d := sceneDesk (describedNode "Menu" [] [describedButton "start game"])
    d.files.exists? s.registryPath = false ∧
      d.files.land s.scenePath ≠ d.files.land s.registryPath ∧
      (∀ v, d.files.readScene s.scenePath = .ok v → GenuineScene v) ∧
      (∀ p ∈ [s.scenePath, s.registryPath], Faithful (nextDesk s d).files p) ∧
      (Cli.register s).run d = (.ok 0, nextDesk s d) ∧
      storedPaths s (nextDesk s d) = some ["Menu/Start_Game_Button"] ∧
        AddsNothing s (nextDesk s d) := by
  intro s d
  have hnew : d.files.exists? s.registryPath = false := by decide +kernel
  have hapart : d.files.land s.scenePath ≠ d.files.land s.registryPath := by decide +kernel
  have hgenuine : ∀ v, d.files.readScene s.scenePath = .ok v → GenuineScene v := by
    have hread : (d.files.readScene s.scenePath).toOption = some (.object [("scene", .text "Main"),
        ("roots", .list [describedNode "Menu" [] [describedButton "start game"]])]) := by
      decide +kernel
    intro v hv fields spec hfields hspec
    rw [hv] at hread
    cases hread
    cases hfields
    cases hspec
    simp only [NodeSpec.entriesAll, NodeSpec.entries, List.append_nil, List.forall_mem_cons,
      Component.genuineEntry_text, List.not_mem_nil, false_imp_iff, implies_true, and_true]
  have hfaithful : ∀ p ∈ [s.scenePath, s.registryPath], Faithful (nextDesk s d).files p := by
    decide +kernel
  have hrun : (Cli.register s).run d = (.ok 0, nextDesk s d) := run_eq_nextDesk (by decide +kernel)
  obtain ⟨w, hw, hiff⟩ := register_twice hnew hapart (fun _ => hgenuine) hfaithful hrun
  have hreopened : ∀ w ∈ reopened s (nextDesk s d).files, Settled w 0 ∧
      w.registry.stored.paths = ["Menu/Start_Game_Button"] ∧
        ∀ p ∈ w.registry.stored.paths, (w.forest.findByPath? 0 p).isSome = true := by decide +kernel
  obtain ⟨hsettled, hpaths, hfound⟩ := hreopened w hw
  exact ⟨hnew, hapart, hgenuine, hfaithful, hrun, by rw [storedPaths, hw, Option.map_some, hpaths],
    (hiff hsettled).mpr hfound⟩

/-- Two nodes of one name stand beside each other. The path of the second button leads into the first
of them, where nothing is found, so the second registration enters that button once more. -/
theorem registered_again_of_siblings :
    let s := Settings.default ⟨.single, []⟩
    let d := sceneDesk (describedNode "Root" [] [describedNode "Box" [] [describedButton "Play_Button"],
      describedNode "Box" [] [describedButton "Quit_Button"]])
    d.files.exists? s.registryPath = false ∧
      (Cli.register s).run d = (.ok 0, nextDesk s d) ∧
      (Cli.register s).run (nextDesk s d) = (.ok 0, nextDesk s (nextDesk s d)) ∧
      storedPaths s (nextDesk s d) = some ["Root/Box/Play_Button", "Root/Box/Quit_Button"] ∧
      storedPaths s (nextDesk s (nextDesk s d)) =
        some ["Root/Box/Play_Button", "Root/Box/Quit_Button", "Root/Box/Quit_Button"] := by
  intro s d
  have hruns : ((Cli.register s).run d).1.toOption = some 0 ∧
      ((Cli.register s).run (nextDesk s d)).1.toOption = some 0 ∧
      storedPaths s (nextDesk s d) = some ["Root/Box/Play_Button", "Root/Box/Quit_Button"] ∧
      storedPaths s (nextDesk s (nextDesk s d)) =
        some ["Root/Box/Play_Button", "Root/Box/Quit_Button", "Root/Box/Quit_Button"] := by
    decide +kernel
  obtain ⟨hfirst, hsecond, hpaths⟩ := hruns
  exact ⟨by decide +kernel, run_eq_nextDesk hfirst, run_eq_nextDesk hsecond, hpaths⟩

end Cli

end SceneBindings
