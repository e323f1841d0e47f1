import SceneBindings.Proofs.Registry.Panels
import SceneBindings.Proofs.Registry.Stages
import SceneBindings.Proofs.Standardizing.OneVisit

/-!
The states of a registry beside a scene. The scene is new or has been loaded; then the registry works,
the scene is edited, nodes are changed where they are, and standardizers come and go. In every such
state parents and children agree, and no node is a part of itself.
-/

namespace SceneBindings

namespace Forest

variable {f g h : Forest} {j k : Key}

/-! ### Nodes changed in their places -/

/-- The second forest has the nodes of the first in the same places. Names, switches and components
may differ, but no node has become a part of itself. -/
structure Retouched (f g : Forest) : Prop where
  parent : ∀ j, (g.node j).parent = (f.node j).parent
  children : ∀ j, (g.node j).children = (f.node j).children
  scene : ∀ j, (g.node j).scene = (f.node j).scene
  apart : ∀ j, f.PartsApart j → g.PartsApart j
  roots : ∀ t, g.roots t = f.roots t
  nodes : g.nodes.length = f.nodes.length
  scenes : g.scenes.length = f.scenes.length

namespace Retouched

lemma refl (f : Forest) : Retouched f f := by constructor <;> simp

lemma trans (hfg : Retouched f g) (hgh : Retouched g h) : Retouched f h where
  parent j := (hgh.parent j).trans (hfg.parent j)
  children j := (hgh.children j).trans (hfg.children j)
  scene j := (hgh.scene j).trans (hfg.scene j)
  apart j hj := hgh.apart j (hfg.apart j hj)
  roots t := (hgh.roots t).trans (hfg.roots t)
  nodes := hgh.nodes.trans hfg.nodes
  scenes := hgh.scenes.trans hfg.scenes

lemma modify (f : Forest) (k : Key) {u : Node → Node}
    (hparent : ∀ n, (u n).parent = n.parent := by exact fun _ => rfl)
    (hchildren : ∀ n, (u n).children = n.children := by exact fun _ => rfl)
    (hscene : ∀ n, (u n).scene = n.scene := by exact fun _ => rfl)
    (hcomponents : ∀ n, (u n).components = n.components := by exact fun _ => rfl) :
    Retouched f (f.modify k u) where
  parent j := node_modify_keeps (·.parent) f k j hparent
  children j := node_modify_keeps (·.children) f k j hchildren
  scene j := node_modify_keeps (·.scene) f k j hscene
  apart j hj := by rwa [PartsApart, node_modify_keeps (·.components) f k j hcomponents]
  roots := roots_of_scenes (scenes_modify f k u)
  nodes := length_modify f k u
  scenes := congrArg List.length (scenes_modify f k u)

lemma announce (f : Forest) (k : Key) : Retouched f (f.announce k) := by
  have hnode := node_announce f k
  refine ⟨?_, ?_, ?_, ?_, roots_of_scenes (scenes_announce f k),
    congrArg List.length (nodes_announce f k), congrArg List.length (scenes_announce f k)⟩
  all_goals simp [hnode, PartsApart]

lemma rename (f : Forest) (k : Key) (name : String) : Retouched f (f.rename k name) := by
  rw [Forest.rename]
  split
  · exact .refl f
  · exact (modify f k).trans (.announce _ k)

lemma setActive (f : Forest) (k : Key) (active : Bool) : Retouched f (f.setActive k active) :=
  modify f k

lemma foldl_setActive (ks : List Key) (f : Forest) (active : Bool) :
    Retouched f (ks.foldl (fun f k => f.setActive k active) f) := by
  induction ks generalizing f with
  | nil => exact .refl f
  | cons k ks ih => exact (setActive f k active).trans (ih _)

lemma housed {s : SceneId} (h : Retouched f g) (hf : f.Housed s) : g.Housed s :=
  hf.congr h.parent h.children h.scene h.roots (Nat.le_of_eq h.nodes.symm)
    (Nat.le_of_eq h.scenes.symm)

end Retouched

/-! ### Edits -/

/-- An edit that is allowed for the scene and creates no node that is a part of itself. -/
def Permits (f : Forest) (s : SceneId) : Edit → Prop
  | .create _ components _ =>
    ∀ c ∈ components, ∀ name d, c.part? name = some d → d ≠ f.nodes.length + 1
  | e => f.Allows s e

lemma Permits.allows {s : SceneId} {e : Edit} (h : f.Permits s e) : f.Allows s e := by
  cases e with
  | create name components active => exact trivial
  | _ => exact h

/-- New components have no parts. -/
lemma permits_create (f : Forest) (s : SceneId) (name : String) (kinds : List ComponentKind)
    (active : Bool) : f.Permits s (.create name (kinds.map .new) active) := by
  intro c hc part d hd
  obtain ⟨kind, -, rfl⟩ := List.mem_map.mp hc
  cases hd

lemma components_destroy (f : Forest) (k j : Key) :
    ((f.destroy k).node j).components = (f.node j).components :=
  node_destroy_keeps (·.components) (fun _ _ _ _ => rfl) f k j

/-- Edits make no node a part of itself. -/
lemma PartsApart.edit {s : SceneId} (hapart : ∀ k, f.PartsApart k) {e : Edit} (he : f.Permits s e)
    (k : Key) : (f.edit e).PartsApart k := by
  have hkept : ((f.edit e).node k).components = (f.node k).components →
      (f.edit e).PartsApart k := by
    intro h
    rw [PartsApart, h]
    exact hapart k
  cases e with
  | addScene name => exact hapart k
  | create name components active =>
    rw [PartsApart, Forest.edit, node_create]
    split
    · next hk => exact hk ▸ he
    · exact hapart k
  | setParent j up => exact hkept (components_setParent f j up k)
  | addRoot t j =>
    refine hkept ?_
    rw [Forest.edit, node_addRoot_keeps (·.components) fun _ _ => rfl, components_setParent]
  | rename j name => exact (Retouched.rename f j name).apart k (hapart k)
  | destroy j => exact hkept (components_destroy f j k)

end Forest

namespace Workspace

open Forest

variable {u v w : Workspace} {k : Key} {probe : Probe}

/-! ### What the work of the registry does to the scene -/

lemma forest_addAsIs (w : Workspace) (k : Key) (probe : Probe) :
    (w.addAsIs k probe).1.forest = w.forest := by
  rw [addAsIs]
  dsimp only
  split
  · rfl
  · split
    · rfl
    · split <;> rfl

/-- An add goes as far as to rename the node: the node lives and has no entry, it gets another name,
and the path that it would then have is free. -/
structure RenamesFirst (w : Workspace) (k : Key) (standardize : Bool) : Prop where
  alive : (w.forest.node k).destroyed = false
  new : w.registry.byKey.get? k = none
  asked : standardize = true
  other : w.newName k ≠ w.name k
  free : w.registry.hasPath (w.renamedPath k (w.newName k)).2 = false

/-- An add changes the scene only by renaming, whatever comes of it. -/
lemma forest_addNode (w : Workspace) (k : Key) (probe : Probe) (standardize : Bool) :
    (w.RenamesFirst k standardize ∧
        (w.addNode k probe standardize).1.forest = (w.standardized k).forest) ∨
      (¬ w.RenamesFirst k standardize ∧ (w.addNode k probe standardize).1.forest = w.forest) := by
  rw [addNode]
  split
  · next hgone => exact .inr ⟨fun h => Bool.false_ne_true (h.alive.symm.trans hgone), rfl⟩
  · next halive =>
    split
    · next path hknown =>
      exact .inr ⟨fun h => Option.some_ne_none path (hknown.symm.trans h.new), rfl⟩
    · next hnew =>
      split
      · next hasked =>
        obtain ⟨⟨-, hpath⟩, cache, h⟩ | ⟨htaken, cache, h⟩ := standardizeNew_cases w k
        · refine .inr ⟨fun hfirst => ?_, by rw [h]; rfl⟩
          rw [hfirst.free] at hpath
          cases hpath
        · -- the renaming is done, whether it stopped or the node is entered next
          have hdone : ∀ f, f = (w.standardized k).forest →
              (w.RenamesFirst k standardize ∧ f = (w.standardized k).forest) ∨
                (¬ w.RenamesFirst k standardize ∧ f = w.forest) := by
            rintro _ rfl
            by_cases hother : w.newName k = w.name k
            · refine .inr ⟨fun hfirst => hfirst.other hother, ?_⟩
              exact congrArg Renaming.forest (Renaming.standardize_of_proposedName_eq
                (r := ⟨w.forest, w.namerToUse, w.events, none⟩) hother)
            · refine .inl ⟨⟨eq_false_of_ne_true halive, hnew, hasked, hother, ?_⟩, rfl⟩
              exact eq_false_of_ne_true fun hpath => htaken ⟨hother, hpath⟩
          rw [h]
          cases (w.standardized k).fault with
          | none => exact hdone _ (forest_addAsIs _ k probe)
          | some e => exact hdone _ rfl
      · next hasked => exact .inr ⟨fun h => hasked h.asked, forest_addAsIs w k probe⟩

lemma retouched_standardized (w : Workspace) (k : Key) :
    Retouched w.forest (w.standardized k).forest :=
  Renaming.kept_standardize (r := ⟨w.forest, w.namerToUse, w.events, none⟩)
    (fun f j name h => h.trans (.rename f j name)) (.refl w.forest) k false

lemma retouched_add (w : Workspace) (k : Option Key) (probe : Probe) (standardize : Option Bool) :
    Retouched w.forest (w.add k probe standardize).1.forest := by
  cases k with
  | none => exact .refl _
  | some k =>
    obtain ⟨-, h⟩ | ⟨-, h⟩ := forest_addNode w k probe (standardize.getD w.namer.isSome)
    · rw [add, h]
      exact retouched_standardized w k
    · rw [add, h]
      exact .refl _

lemma retouched_drop (w : Workspace) (i : RefId) : Retouched w.forest (w.drop i).forest := by
  have hforest : (w.drop i).forest = (w.registry.drop w.forest i).2 := rfl
  rw [hforest]
  obtain ⟨k, -, -, -, -, h⟩ | ⟨-, -, -, h⟩ := Registry.panels_drop w.registry w.forest i
  · rw [h]
    exact .setActive w.forest k false
  · rw [h]
    exact .refl _

lemma retouched_activate (w : Workspace) (k : Key) (exclusive keepLast : Bool) :
    Retouched w.forest (w.activate k exclusive keepLast).forest :=
  (Retouched.foldl_setActive _ w.forest false).trans (.setActive _ k true)

lemma retouched_panel (w : Workspace) (key : ElementKey) :
    Retouched w.forest (w.panel key).1.forest := by
  rw [panel, (panels_reportAll w _).2]
  exact .refl _

lemma retouched_setPanelActive (w : Workspace) (key : ElementKey) (isActive others keepLast : Bool) :
    Retouched w.forest (w.setPanelActive key isActive others keepLast).1.forest := by
  have hpanel := retouched_panel w key
  rw [setPanelActive]
  split
  · next h => rwa [h] at hpanel
  · next u k h =>
    rw [h] at hpanel
    dsimp only
    split
    · exact hpanel.trans (retouched_activate u k others keepLast)
    · exact hpanel.trans (.setActive _ k false)

lemma retouched_togglePanel (w : Workspace) (key : ElementKey) :
    Retouched w.forest (w.togglePanel key).1.forest := by
  have hpanel := retouched_panel w key
  rw [togglePanel]
  split
  · next h => rwa [h] at hpanel
  · next u k h =>
    rw [h] at hpanel
    dsimp only
    split
    · exact hpanel.trans (.setActive _ k false)
    · exact hpanel.trans (retouched_activate u k false false)

lemma retouched_foldl {α : Type} {step : Workspace → α → Workspace}
    (hstep : ∀ w a, Retouched w.forest (step w a).forest) (w : Workspace) (as : List α) :
    Retouched w.forest (as.foldl step w).forest := by
  induction as generalizing w with
  | nil => exact .refl _
  | cons a as ih => exact (hstep w a).trans (ih _)

lemma retouched_addMany (w : Workspace) (probe : Probe) (ks : List (Option Key)) :
    Retouched w.forest (w.addMany probe ks).1.forest := by
  induction ks generalizing w with
  | nil => exact .refl _
  | cons k ks ih =>
    have hone := retouched_add w k probe none
    rw [addMany]
    rcases hr : w.add k probe none with ⟨u, e | i⟩ <;> rw [hr] at hone
    · exact hone
    · have hmore := hone.trans (ih u)
      dsimp only
      rcases hs : u.addMany probe ks with ⟨v, e | is⟩ <;> rw [hs] at hmore <;> exact hmore

/-- Every action but an edit leaves the nodes in their places. -/
lemma retouched_act {a : Action} (ha : ∀ e, a ≠ .edit e) : Retouched w.forest (w.act a).forest := by
  cases a with
  | edit e => exact absurd rfl (ha e)
  | add k probe standardize => exact retouched_add w k probe standardize
  | addMany probe ks => exact retouched_addMany w probe ks
  | remove key =>
    obtain ⟨i, -, -, heq⟩ | ⟨d, heq⟩ := remove_cases w key
    · rw [act, heq]
      exact retouched_drop w i
    · rw [act, heq]
      exact .refl _
  | bindScene s =>
    obtain ⟨store, byPath, byKey, events, -, heq⟩ := bindScene_frame w s
    rw [act, heq]
    exact .refl _
  | repair s =>
    rw [act, repair]
    split
    · rw [repairEach_eq_foldl]
      exact retouched_foldl (fun w i => (touches_repairOne w _ i).1.symm ▸ .refl _) w _
    · exact .refl _
  | removeMissing => exact retouched_foldl retouched_drop w _
  | refreshPaths =>
    rw [act, refreshPaths, refreshEach_eq_foldl]
    exact retouched_foldl (fun w i => (touches_refreshOne w i).1.forest.symm ▸ .refl _) w _
  | setPanelActive key isActive others keepLast =>
    exact retouched_setPanelActive w key isActive others keepLast
  | togglePanel key => exact retouched_togglePanel w key
  | isPanelVisible key =>
    have hpanel := retouched_panel w key
    rw [act, isPanelVisible]
    split
    · next h => rwa [h] at hpanel
    · next h => rwa [h] at hpanel
  | activate k exclusive keepLast => exact retouched_activate w k exclusive keepLast
  | deactivate k => exact .setActive w.forest k false

/-! ### Reachable states -/

/-- What an action has to keep to: edits are those that the scene permits. -/
def Permits (w : Workspace) : Action → Prop
  | .edit e => w.forest.Permits 0 e
  | _ => True

/-- The states of a registry and a scene. The scene is new or loaded; the registry is new or read from
a document, and may be disposed of, or another one be opened. Nodes may be changed in their places by
others, and the registry may be given a standardizer or lose it. -/
inductive Reachable : Workspace → Prop where
  | built (name : String) (o : Registry.Origin) (namer : Option Standardizer) :
      Reachable (start (Forest.empty.edit (.addScene name)) o namer)
  | loaded [Validator] {v : Value} {f : Forest} {events : List Event} (o : Registry.Origin)
      (namer : Option Standardizer) (load : Forest.empty.loadScene v = ⟨f, events, .ok 0⟩) :
      Reachable (start f o namer)
  | act {w : Workspace} (before : Reachable w) (a : Action) (permits : w.Permits a) :
      Reachable (w.act a)
  | retouch {w : Workspace} {f : Forest} (before : Reachable w) (retouched : Retouched w.forest f) :
      Reachable { w with forest := f }
  | equip {w : Workspace} (before : Reachable w) (namer : Option Standardizer) :
      Reachable { w with namer }
  | dispose {w : Workspace} (before : Reachable w) :
      Reachable { w with registry := w.registry.dispose w.forest }
  | reopen {w : Workspace} (before : Reachable w) (o : Registry.Origin) :
      Reachable { w with registry := o.registry w.forest }

def PermitsAll (w : Workspace) : List Action → Prop
  | [] => True
  | a :: as => w.Permits a ∧ (w.act a).PermitsAll as

lemma Reachable.run {as : List Action} (h : w.Reachable) (has : w.PermitsAll as) :
    (w.run as).Reachable := by
  induction as generalizing w with
  | nil => exact h
  | cons a as ih => exact ih (h.act a has.1) has.2

/-- The scene is in order, and no node is a part of itself. -/
structure Regular (w : Workspace) : Prop where
  housed : w.forest.Housed 0
  apart : ∀ k, w.forest.PartsApart k

lemma Regular.retouched {w v : Workspace} (h : w.Regular) (hv : Retouched w.forest v.forest) :
    v.Regular :=
  ⟨hv.housed h.housed, fun k => hv.apart k (h.apart k)⟩

lemma regular_act (h : w.Regular) {a : Action} (ha : w.Permits a) : (w.act a).Regular := by
  by_cases hedit : ∃ e, a = .edit e
  · obtain ⟨e, rfl⟩ := hedit
    rw [Permits] at ha
    exact ⟨h.housed.edit ha.allows, PartsApart.edit h.apart ha⟩
  · exact h.retouched (retouched_act (not_exists.mp hedit))

/-- All states that can be reached are in order. -/
theorem Reachable.regular (h : Reachable w) : w.Regular := by
  induction h with
  | built name o namer =>
    refine ⟨housed_addScene_empty name, fun k c hc => ?_⟩
    have hnone : ((Forest.empty.addScene name).1.node k).components = [] := by cases k <;> rfl
    exact absurd (hnone ▸ hc) List.not_mem_nil
  | loaded o namer load =>
    obtain ⟨-, -, horderly, ts, hplanted⟩ := Renaming.orderly_of_loadScene load
    exact ⟨hplanted.housed, horderly.parts.apart horderly.wellFormed⟩
  | act before a permits ih => exact regular_act ih permits
  | retouch before retouched ih => exact ih.retouched retouched
  | equip before namer ih => exact ih.retouched (.refl _)
  | dispose before ih => exact ih.retouched (.refl _)
  | reopen before o ih => exact ih.retouched (.refl _)

end Workspace

end SceneBindings
