import SceneBindings.Cli.Commands
import SceneBindings.Proofs.Register.Renaming
import SceneBindings.Proofs.Registry.Uniqueness

/-!
Registering one node: either the node is passed over and nothing happens, or it gets its canonical
name and, unless its path is taken or malformed, an entry under its path.
-/

namespace SceneBindings

open Forest

namespace PathCache.Trusted

variable {f : Forest} {s : SceneId} {c : PathCache}

lemma get (h : c.Trusted f s) (k : Key) : (c.get f k).1.Trusted f s := by
  obtain ⟨hseen, hfollows, -⟩ := get_fields c f k
  exact ⟨settled_get h.settled k, Nat.le_of_eq hseen, hfollows ▸ h.follows⟩

lemma get_eq (h : c.Trusted f s) {k : Key} (hk : k ∈ f.walk s) : (c.get f k).2 = f.fullPath k :=
  settled_iff.mp h.settled k hk

lemma invalidate (h : c.Trusted f s) (k : Key) : (c.invalidate f k).Trusted f s where
  settled n hn path hpath := by
    obtain ⟨hget, -⟩ := get?_sync_eq_some.mp hpath
    rw [PathCache.invalidate, get?_forget] at hget
    split at hget
    · cases hget
    · exact h.settled n hn path hget
  seen := Nat.le_refl _
  follows := h.follows

end PathCache.Trusted

/-- The path that a node has under a name. -/
def Forest.pathUnder (f : Forest) (k : Key) (name : String) : String :=
  match (f.node k).parent with
  | some p => f.fullPath p ++ pathSeparator ++ name
  | none => name

namespace Forest

variable {f g : Forest} {k : Key}

lemma fullPath_eq_pathUnder (hf : f.WellFormed) (hk : f.IsNode k) :
    f.fullPath k = f.pathUnder k (f.node k).name := by
  rw [fullPath, pathUnder]
  cases hp : (f.node k).parent with
  | none =>
    rw [hf.chain_of_root hk hp]
    simp
  | some p =>
    have hne : ((f.chain p).reverse.map fun a => (f.node a).name) ≠ [] := by
      have hself := (hf.mem_chain (hf.isNode_parent hp)).mpr .refl
      exact List.ne_nil_of_mem (List.mem_map_of_mem (List.mem_reverse.mpr hself))
    rw [hf.chain_of_child hp, List.reverse_cons, List.map_append,
      String.intercalate_append_of_ne_nil hne (by simp)]
    simp [fullPath]

/-- The renaming of a node and of what is below it leaves the path that leads to it. -/
lemma Renames.pathUnder_eq (h : Renames k f g) (hf : f.WellFormed) (name : String) :
    g.pathUnder k name = f.pathUnder k name := by
  have hparent : (g.node k).parent = (f.node k).parent := (congrArg Node.parent (h.shape k) :)
  rw [pathUnder, pathUnder, hparent]
  cases hp : (f.node k).parent with
  | none => rfl
  | some p =>
    dsimp only
    rw [h.toReshaped.fullPath_eq fun a ha => (h.name a).resolve_right fun hboth =>
      hf.not_below_self k (Relation.TransGen.tail' (hboth.1.trans ha) hp)]

end Forest

namespace Workspace

variable {u v w : Workspace} {s : SceneId} {k : Key} {z : Standardizer}

/-- The paths that the registry remembers are those of a scene whose nodes can be renamed. -/
structure Tracks (s : SceneId) (w : Workspace) : Prop where
  housed : w.forest.Housed s
  orderly : Renaming.Orderly w.forest
  alive : ∀ k, w.forest.IsAlive k
  trusted : w.registry.cache.Trusted w.forest s

/-- Nothing was done but to remember paths and to report. -/
structure Idle (s : SceneId) (w v : Workspace) : Prop where
  forest : v.forest = w.forest
  namer : v.namer = w.namer
  registry : ∃ c : PathCache, c.Trusted w.forest s ∧ v.registry = { w.registry with cache := c }

/-- The standardizer renames by the same rule and has counted what it renamed. -/
def Counted (w v : Workspace) : Prop :=
  match w.namer, v.namer with
  | none, none => v.forest = w.forest
  | some z, some y => y.respectsExisting = z.respectsExisting ∧ z.renamed ≤ y.renamed ∧
    (y.renamed = z.renamed → v.forest = w.forest)
  | _, _ => False

/-- Nodes at or below a node were renamed, and nothing else was done but to remember paths and to
report. -/
structure Moves (s : SceneId) (k : Key) (w v : Workspace) : Prop where
  forest : Renames k w.forest v.forest
  counted : Counted w v
  registry : ∃ c : PathCache, c.Trusted v.forest s ∧ v.registry = { w.registry with cache := c }

lemma Counted.of_idle (hf : v.forest = w.forest) (hn : v.namer = w.namer) : Counted w v := by
  rw [Counted, hn]
  cases w.namer with
  | none => exact hf
  | some z => exact ⟨rfl, Nat.le_refl _, fun _ => hf⟩

lemma Counted.trans (h : Counted w u) (h' : Counted u v) : Counted w v := by
  rw [Counted] at h h' ⊢
  revert h h'
  cases w.namer <;> cases u.namer <;> cases v.namer <;>
    simp only [false_imp_iff, imp_false, implies_true, not_false_eq_true]
  · exact fun h h' => h'.trans h
  · rintro ⟨hr, hle, hsame⟩ ⟨hr', hle', hsame'⟩
    refine ⟨hr'.trans hr, Nat.le_trans hle hle', fun he => ?_⟩
    rw [hsame' (by omega), hsame (by omega)]

namespace Idle

lemma refl (h : w.Tracks s) : Idle s w w := ⟨rfl, rfl, _, h.trusted, rfl⟩

lemma report (h : Idle s w v) (d : Diagnostic) : Idle s w (v.report d) := ⟨h.forest, h.namer, h.registry⟩

lemma trans (h : Idle s w u) (h' : Idle s u v) : Idle s w v := by
  obtain ⟨c, -, hu⟩ := h.registry
  obtain ⟨c', hc', hv⟩ := h'.registry
  rw [h.forest] at hc'
  exact ⟨h'.forest.trans h.forest, h'.namer.trans h.namer, c', hc', by rw [hv, hu]⟩

lemma moves (h : Idle s w v) (k : Key) : Moves s k w v where
  forest := h.forest ▸ .refl k w.forest
  counted := .of_idle h.forest h.namer
  registry := by rw [h.forest]; exact h.registry

lemma tracks (h : Idle s w v) (hw : w.Tracks s) : v.Tracks s := by
  obtain ⟨c, hc, hv⟩ := h.registry
  obtain ⟨housed, orderly, alive, -⟩ := hw
  rw [← h.forest] at housed orderly alive hc
  exact ⟨housed, orderly, alive, by rw [hv]; exact hc⟩

lemma hasPath (h : Idle s w v) (p : String) : v.registry.hasPath p = w.registry.hasPath p := by
  obtain ⟨c, -, hv⟩ := h.registry
  rw [hv]
  rfl

lemma byKey (h : Idle s w v) : v.registry.byKey = w.registry.byKey := by
  obtain ⟨c, -, hv⟩ := h.registry
  rw [hv]

end Idle

lemma Moves.tracks (h : Moves s k w v) (hw : w.Tracks s) : v.Tracks s where
  housed := h.forest.housed hw.housed
  orderly := hw.orderly.renames h.forest
  alive j := ((congrArg Node.destroyed (h.forest.shape j) :) : (v.forest.node j).destroyed =
    (w.forest.node j).destroyed).trans (hw.alive j)
  trusted := by
    obtain ⟨c, hc, hv⟩ := h.registry
    rw [hv]
    exact hc

lemma Moves.hasKey (h : Moves s k w v) (j : Key) : v.registry.hasKey j = w.registry.hasKey j := by
  obtain ⟨c, -, hv⟩ := h.registry
  rw [hv]
  rfl

lemma idle_pathOf (h : w.Tracks s) (hk : k ∈ w.forest.walk s) :
    Idle s w (w.pathOf k).1 ∧ (w.pathOf k).2 = w.forest.fullPath k :=
  ⟨⟨rfl, rfl, _, h.trusted.get k, rfl⟩, h.trusted.get_eq hk⟩

lemma idle_renamedPath (h : w.Tracks s) (hk : k ∈ w.forest.walk s) (name : String) :
    Idle s w (w.renamedPath k name).1 ∧ (w.renamedPath k name).2 = w.forest.pathUnder k name := by
  rw [renamedPath, pathUnder]
  cases hp : (w.forest.node k).parent with
  | none => exact ⟨.refl h, rfl⟩
  | some p =>
    obtain ⟨hidle, hpath⟩ := idle_pathOf h (h.housed.mem_walk_parent hk hp)
    exact ⟨hidle, by dsimp only; rw [hpath]⟩

/-! ### Renaming a new element -/

/-- The name that the standardizer of the registry would give to a node; without a standardizer a
node keeps its name. -/
def proposed (w : Workspace) (k : Key) : String :=
  match w.namer with
  | some z => z.proposedName w.forest k false
  | none => w.name k

section StandardizeNew

variable (h : w.Tracks s) (hz : w.namer = some z)

lemma with_namer (hz : w.namer = some z) : { w with namer := some z } = w := by
  rw [← hz]

include h hz

lemma standardizeNew_of_kept (hkept : w.proposed k = w.name k) :
    Idle s w (w.standardizeNew k).1 ∧ (w.standardizeNew k).2 = .ok none := by
  rw [proposed, hz] at hkept
  have hsame : (Renaming.standardize ⟨w.forest, z, w.events, none⟩ k false).1 =
      ⟨w.forest, z, w.events, none⟩ :=
    Renaming.standardize_of_proposedName_eq hkept
  simp only [standardizeNew, hz, Option.getD_some, with_namer hz, hkept, beq_self_eq_true, if_true]
  rw [hsame]
  exact ⟨⟨rfl, hz.symm, _, h.trusted.invalidate k, rfl⟩, rfl⟩

variable (hk : k ∈ w.forest.walk s) (hother : w.proposed k ≠ w.name k)
include hk hother

lemma standardizeNew_of_taken
    (htaken : w.registry.hasPath (w.forest.pathUnder k (w.proposed k)) = true) :
    Idle s w (w.standardizeNew k).1 ∧ ∃ path, (w.standardizeNew k).2 = .ok (some path) := by
  have hproposed : w.proposed k = z.proposedName w.forest k false := by rw [proposed, hz]
  obtain ⟨hidle, hpath⟩ := idle_renamedPath h hk (w.proposed k)
  rw [hproposed] at hother htaken hidle hpath
  simp only [standardizeNew, hz, Option.getD_some, with_namer hz,
    if_neg (show ¬ (z.proposedName w.forest k false == w.name k) = true by simpa using hother)]
  rcases hr : w.renamedPath k (z.proposedName w.forest k false) with ⟨u, path⟩
  rw [hr] at hidle hpath
  dsimp only at hidle hpath ⊢
  rw [if_pos (by rw [hidle.hasPath, hpath]; exact htaken)]
  exact ⟨hidle, path, rfl⟩

lemma standardizeNew_of_free
    (hfree : w.registry.hasPath (w.forest.pathUnder k (w.proposed k)) = false)
    {path : Option String} (hok : (w.standardizeNew k).2 = .ok path) :
    Moves s k w (w.standardizeNew k).1 ∧ path = none := by
  have hproposed : w.proposed k = z.proposedName w.forest k false := by rw [proposed, hz]
  obtain ⟨hidle, hpath⟩ := idle_renamedPath h hk (w.proposed k)
  rw [hproposed] at hother hfree hidle hpath
  revert hok
  simp only [standardizeNew, hz, Option.getD_some, with_namer hz,
    if_neg (show ¬ (z.proposedName w.forest k false == w.name k) = true by simpa using hother)]
  rcases hr : w.renamedPath k (z.proposedName w.forest k false) with ⟨u, renamed⟩
  rw [hr] at hidle hpath
  dsimp only at hidle hpath ⊢
  rw [if_neg (by rw [hidle.hasPath, hpath, hfree]; exact Bool.false_ne_true)]
  dsimp only
  split
  · rintro ⟨⟩
  rintro ⟨⟩
  have hu := hidle.tracks h
  have hnode : u.forest.IsNode k := hu.housed.isNode_of_mem_walk (hidle.forest ▸ hk)
  have hworks : Renaming.Works k ⟨u.forest, z, u.events, none⟩
      (Renaming.standardize ⟨u.forest, z, u.events, none⟩ k false).1 :=
    Renaming.works_standardize false hu.orderly hnode
  refine ⟨⟨hidle.forest ▸ hworks.forest, ?_, ?_⟩, rfl⟩
  · rw [Counted, hz]
    refine ⟨hworks.settings, hworks.counted, fun he => ?_⟩
    rw [hworks.still he, hidle.forest]
  · obtain ⟨c, -, hc⟩ := hidle.registry
    refine ⟨_, (hworks.forest.trusted s _ hu.housed hu.trusted).invalidate k, ?_⟩
    dsimp only
    rw [hc]

end StandardizeNew

/-! ### Entering an element -/

/-- The path of a node is malformed or taken. -/
def Barred (w : Workspace) (k : Key) : Prop :=
  isCanonicalPath (w.forest.fullPath k) = false ∨ w.registry.hasPath (w.forest.fullPath k) = true

/-- The reference that a node gets. -/
def entryOf (w : Workspace) (k : Key) : Reference :=
  ⟨w.name k, w.forest.fullPath k, w.forest.classify k, .bound k⟩

/-- The node got a reference. -/
structure Enters (s : SceneId) (k : Key) (w v : Workspace) : Prop where
  forest : v.forest = w.forest
  namer : v.namer = w.namer
  free : ¬ w.Barred k
  registry : ∃ c : PathCache, c.Trusted w.forest s ∧
    v.registry = ({ w.registry with cache := c }.insert w.forest (w.entryOf k)).1

namespace Enters

variable (h : Enters s k w v)

include h

lemma tracks (hw : w.Tracks s) : v.Tracks s := by
  obtain ⟨c, hc, hv⟩ := h.registry
  have hcache : v.registry.cache = c := by
    rw [hv]
    rfl
  obtain ⟨housed, orderly, alive, -⟩ := hw
  rw [← h.forest] at housed orderly alive hc
  exact ⟨housed, orderly, alive, by rwa [hcache]⟩

lemma hasPath_iff {p : String} : v.registry.hasPath p = true ↔
    w.forest.fullPath k = p ∨ w.registry.hasPath p = true := by
  obtain ⟨c, -, hv⟩ := h.registry
  rw [hv, Registry.hasPath_insert]
  rfl

lemma byKey (j : Key) : v.registry.byKey.get? j =
    if j = k ∧ w.forest.IsAlive k then some (w.forest.fullPath k)
    else w.registry.byKey.get? j := by
  obtain ⟨c, -, hv⟩ := h.registry
  rw [hv, Registry.byKey_insert (k := k) rfl]
  rfl

lemma mem_ids {j : RefId} :
    j ∈ v.registry.ids ↔ j = w.registry.store.length ∨ j ∈ w.registry.ids := by
  obtain ⟨c, -, hv⟩ := h.registry
  rw [hv]
  exact Registry.mem_addMember w.registry.categories

lemma reference_self : v.registry.reference w.registry.store.length = w.entryOf k := by
  obtain ⟨c, -, hv⟩ := h.registry
  rw [hv]
  exact Registry.reference_append_self w.registry _

lemma reference_of_stored {j : RefId} (hj : j < w.registry.store.length) :
    v.registry.reference j = w.registry.reference j := by
  obtain ⟨c, -, hv⟩ := h.registry
  rw [hv]
  exact Registry.reference_append w.registry _ j hj

lemma findPath?_eq_none : w.registry.findPath? (w.entryOf k).path = none := by
  have hfree := h.free
  rw [Barred, not_or, Bool.not_eq_true] at hfree
  exact Registry.hasPath_eq_false.mp hfree.2

lemma sound (hw : Registry.Sound w.forest w.registry) : Registry.Sound v.forest v.registry := by
  obtain ⟨c, -, hv⟩ := h.registry
  have hcached : Registry.Sound w.forest { w.registry with cache := c } :=
    hw.of_lists rfl rfl rfl
  rw [h.forest, hv]
  exact hcached.insert h.findPath?_eq_none

lemma unique (hw : Registry.Sound w.forest w.registry)
    (hunique : Registry.Unique w.forest w.registry)
    (hother : ∀ j ∈ w.registry.ids, (w.registry.reference j).path ≠ w.forest.fullPath k)
    (hnew : w.registry.hasKey k = false) : Registry.Unique v.forest v.registry := by
  obtain ⟨c, -, hv⟩ := h.registry
  have hcached : Registry.Sound w.forest { w.registry with cache := c } :=
    hw.of_lists rfl rfl rfl
  have hcached' : Registry.Unique w.forest { w.registry with cache := c } :=
    hunique.of_lists rfl rfl rfl
  rw [h.forest, hv]
  exact hcached'.insert hcached rfl hother (Registry.hasKey_eq_false.mp hnew)

end Enters

lemma addAsIs_of_barred (h : w.Tracks s) (hk : k ∈ w.forest.walk s) (hbarred : w.Barred k) :
    ∃ v, w.addAsIs k .standard = (v, .ok none) ∧ Idle s w v := by
  obtain ⟨hidle, hpath⟩ := idle_pathOf h hk
  rw [addAsIs]
  rcases hr : w.pathOf k with ⟨u, path⟩
  rw [hr] at hidle hpath
  dsimp only at hidle hpath ⊢
  subst hpath
  split
  · exact ⟨_, rfl, hidle.report _⟩
  · next hcanonical =>
    rw [Bool.not_eq_true', Bool.not_eq_false] at hcanonical
    rw [if_pos]
    · exact ⟨_, rfl, hidle.report _⟩
    · rw [Bool.or_eq_true, hidle.hasPath]
      exact .inl (hbarred.resolve_left fun hno => by rw [hcanonical] at hno; cases hno)

/-- What an add that does not rename rejects. -/
lemma barred_of_addAsIs (h : w.Tracks s) (hk : k ∈ w.forest.walk s)
    (hnew : w.registry.hasKey k = false) {probe : Probe} (hrejected : (w.addAsIs k probe).2 = .ok none) :
    w.Barred k := by
  obtain ⟨hidle, hpath⟩ := idle_pathOf h hk
  have hkey : (w.pathOf k).1.registry.hasKey k = false := by
    rw [Registry.hasKey, hidle.byKey]
    exact hnew
  revert hrejected
  rw [addAsIs]
  dsimp only
  split
  · next hmalformed =>
    rw [hpath, Bool.not_eq_true'] at hmalformed
    exact fun _ => .inl hmalformed
  · split
    · next htaken =>
      rw [hkey, Bool.or_false, hidle.hasPath, hpath] at htaken
      exact fun _ => .inr htaken
    · split <;> rintro ⟨⟩

lemma addAsIs_of_free (h : w.Tracks s) (hk : k ∈ w.forest.walk s) (hfree : ¬ w.Barred k)
    (hnew : w.registry.hasKey k = false) :
    (∃ v e, w.addAsIs k .standard = (v, .error e)) ∨
      ∃ v i, w.addAsIs k .standard = (v, .ok i) ∧ Enters s k w v := by
  obtain ⟨hidle, hpath⟩ := idle_pathOf h hk
  rw [addAsIs]
  rcases hr : w.pathOf k with ⟨u, path⟩
  rw [hr] at hidle hpath
  dsimp only at hidle hpath ⊢
  subst hpath
  rw [Barred, not_or, Bool.not_eq_false, Bool.not_eq_true] at hfree
  have hkey : u.registry.hasKey k = false := by
    rw [Registry.hasKey, hidle.byKey]
    exact hnew
  rw [if_neg (by rw [hfree.1]; exact Bool.false_ne_true),
    if_neg (by rw [hidle.hasPath, hfree.2, hkey]; exact Bool.false_ne_true)]
  split
  · exact .inl ⟨_, _, rfl⟩
  · refine .inr ⟨_, _, rfl, hidle.forest, hidle.namer, ?_, ?_⟩
    · rw [Barred, not_or, Bool.not_eq_false, Bool.not_eq_true]
      exact hfree
    · obtain ⟨c, hc, hu⟩ := hidle.registry
      refine ⟨c, hc, ?_⟩
      rw [hu, hidle.forest, entryOf, name, hidle.forest]
      rfl

/-! ### Registering a node -/

/-- What keeps a node from being registered and even renamed. -/
inductive PassedOver (w : Workspace) (k : Key) : Prop
  | unknown (role : w.forest.classify k = .unknown)
  | known (key : w.registry.hasKey k = true)
  | taken (renamed : w.proposed k ≠ w.name k)
      (path : w.registry.hasPath (w.forest.pathUnder k (w.proposed k)) = true)
  | barred (kept : w.proposed k = w.name k) (path : w.Barred k)

lemma registerNode_eq (h : w.Tracks s) (hrole : w.forest.classify k ≠ .unknown)
    (hnew : w.registry.hasKey k = false) : Cli.registerNode w k =
      if w.namer.isSome then
        match w.standardizeNew k with
        | (u, .ok (some path)) => (u.rejectDuplicate k path, .ok ())
        | (u, .ok none) => ((u.addAsIs k .standard).1, (u.addAsIs k .standard).2.map fun _ => ())
        | (u, .error e) => (u, .error e)
      else ((w.addAsIs k .standard).1, (w.addAsIs k .standard).2.map fun _ => ()) := by
  have hkey : w.registry.byKey.get? k = none := Registry.hasKey_eq_false.mp hnew
  have halive : ¬ (w.forest.node k).destroyed = true := by
    rw [show (w.forest.node k).destroyed = false from h.alive k]
    exact Bool.false_ne_true
  rw [Cli.registerNode, if_neg (by rw [hnew]; simpa using hrole), add, addNode, if_neg halive, hkey]
  rw [Option.getD_none]
  cases w.namer.isSome with
  | true =>
    rcases w.standardizeNew k with ⟨u, e | _ | path⟩
    · rfl
    · dsimp only
      rcases u.addAsIs k .standard with ⟨v, e | i⟩ <;> rfl
    · rfl
  | false => rcases w.addAsIs k .standard with ⟨v, e | i⟩ <;> rfl

lemma registerNode_of_passedOver (h : w.Tracks s) (hk : k ∈ w.forest.walk s)
    (hpassed : w.PassedOver k) : ∃ v, Cli.registerNode w k = (v, .ok ()) ∧ Idle s w v := by
  by_cases hskip : w.forest.classify k = .unknown ∨ w.registry.hasKey k = true
  · exact ⟨w, by rw [Cli.registerNode, if_pos (by simpa using hskip)], .refl h⟩
  rw [not_or, Bool.not_eq_true] at hskip
  rw [registerNode_eq h hskip.1 hskip.2]
  cases hpassed with
  | unknown role => exact absurd role hskip.1
  | known key => exact absurd (hskip.2.symm.trans key) Bool.false_ne_true
  | taken renamed path =>
    obtain ⟨z, hz⟩ : ∃ z, w.namer = some z := by
      cases hz : w.namer with
      | none => exact absurd (by rw [proposed, hz]) renamed
      | some z => exact ⟨z, rfl⟩
    obtain ⟨hidle, path, hpath⟩ := standardizeNew_of_taken h hz hk renamed path
    rcases hr : w.standardizeNew k with ⟨u, r⟩
    rw [hr] at hidle hpath
    subst hpath
    rw [hz]
    exact ⟨_, rfl, hidle.report _⟩
  | barred kept path =>
    cases hz : w.namer with
    | none =>
      obtain ⟨v, hv, hidle⟩ := addAsIs_of_barred h hk path
      exact ⟨v, by simp [hv]; rfl, hidle⟩
    | some z =>
      obtain ⟨hidle, hnone⟩ := standardizeNew_of_kept h hz kept
      rcases hr : w.standardizeNew k with ⟨u, r⟩
      rw [hr] at hidle hnone
      subst hnone
      have hbarred : u.Barred k := by
        rw [Barred, hidle.forest, hidle.hasPath]
        exact path
      obtain ⟨v, hv, hidle'⟩ := addAsIs_of_barred (hidle.tracks h) (hidle.forest ▸ hk) hbarred
      exact ⟨v, by simp [hv]; rfl, hidle.trans hidle'⟩

/-- The first half of the step: a node that is not passed over gets its canonical name, unless it has
it already or the renaming stops. -/
lemma moves_of_not_passedOver (h : w.Tracks s) (hz : w.namer = some z) (hk : k ∈ w.forest.walk s)
    (hpassed : ¬ w.PassedOver k) {path : Option String} (hok : (w.standardizeNew k).2 = .ok path) :
    Moves s k w (w.standardizeNew k).1 ∧
      (w.proposed k = w.name k → Idle s w (w.standardizeNew k).1) ∧ path = none := by
  by_cases hkept : w.proposed k = w.name k
  · obtain ⟨hidle, hnone⟩ := standardizeNew_of_kept h hz hkept
    exact ⟨hidle.moves k, fun _ => hidle, Except.ok.inj (hok.symm.trans hnone)⟩
  · have hfree : w.registry.hasPath (w.forest.pathUnder k (w.proposed k)) = false := by
      rw [← Bool.not_eq_true]
      exact fun htaken => hpassed (.taken hkept htaken)
    obtain ⟨hmoves, hnone⟩ := standardizeNew_of_free h hz hk hkept hfree hok
    exact ⟨hmoves, fun heq => absurd heq hkept, hnone⟩

/-- The second half of the step: the node is entered, unless its path is malformed or taken. -/
lemma barred_or_enters (h : w.Tracks s) (hk : k ∈ w.forest.walk s) (hnew : w.registry.hasKey k = false)
    (hok : (v, .ok ()) = ((w.addAsIs k .standard).1, (w.addAsIs k .standard).2.map fun _ => ())) :
    w.Barred k ∧ Idle s w v ∨ Enters s k w v := by
  by_cases hbarred : w.Barred k
  · obtain ⟨v', hv', hidle⟩ := addAsIs_of_barred h hk hbarred
    rw [hv'] at hok
    cases hok
    exact .inl ⟨hbarred, hidle⟩
  · rcases addAsIs_of_free h hk hbarred hnew with ⟨v', e, hv'⟩ | ⟨v', i, hv', henters⟩
    · rw [hv'] at hok
      cases hok
    · rw [hv'] at hok
      cases hok
      exact .inr henters

/-- The step of registering: a node is passed over; or it is renamed, unless it has its name already,
and then entered, unless its path is malformed or taken. -/
lemma registerNode_cases (h : w.Tracks s) (hk : k ∈ w.forest.walk s)
    (hok : Cli.registerNode w k = (v, .ok ())) :
    w.PassedOver k ∧ Idle s w v ∨
      ¬ w.PassedOver k ∧ ∃ u, Moves s k w u ∧ (w.proposed k = w.name k → Idle s w u) ∧
        (u.Barred k ∧ Idle s u v ∨ Enters s k u v) := by
  by_cases hpassed : w.PassedOver k
  · obtain ⟨v', hv', hidle⟩ := registerNode_of_passedOver h hk hpassed
    rw [hok] at hv'
    cases hv'
    exact .inl ⟨hpassed, hidle⟩
  refine .inr ⟨hpassed, ?_⟩
  have hrole : w.forest.classify k ≠ .unknown := fun hrole => hpassed (.unknown hrole)
  have hnew : w.registry.hasKey k = false := by
    rw [← Bool.not_eq_true]
    exact fun hkey => hpassed (.known hkey)
  rw [registerNode_eq h hrole hnew] at hok
  cases hz : w.namer with
  | none =>
    rw [hz] at hok
    have hidle : Idle s w w := .refl h
    exact ⟨w, hidle.moves k, fun _ => hidle, barred_or_enters h hk hnew hok.symm⟩
  | some z =>
    rw [hz] at hok
    rcases hr : w.standardizeNew k with ⟨u, e | path⟩
    · rw [hr] at hok
      cases hok
    obtain ⟨hmoves, hstill, rfl⟩ := moves_of_not_passedOver h hz hk hpassed (congrArg Prod.snd hr)
    rw [hr] at hmoves hstill hok
    refine ⟨u, hmoves, hstill, barred_or_enters (hmoves.tracks h) ?_ ?_ hok.symm⟩
    · rw [hmoves.forest.walk_eq]
      exact hk
    · rw [hmoves.hasKey, hnew]

end Workspace

end SceneBindings
