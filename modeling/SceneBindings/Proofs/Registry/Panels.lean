import Mathlib.Logic.Relation
import SceneBindings.Proofs.Forest.Housing
import SceneBindings.Proofs.Registry.Rebinding
import SceneBindings.Proofs.Registry.Runs

/-!
The active panels. The table of active panels, the panel that was activated last and the flags of the
nodes say the same thing three times; no operation of the registry lets them part.
-/

namespace SceneBindings

namespace Table

variable {α β : Type} [DecidableEq α]

lemma entries_foldl_erase (ks : List α) (t : Table α β) :
    (ks.foldl erase t).entries = t.entries.filter fun e => e.1 ∉ ks := by
  induction ks generalizing t with
  | nil => simp
  | cons k ks ih =>
    rw [List.foldl_cons, ih, erase, List.filter_filter]
    refine List.filter_congr fun e _ => ?_
    simp only [List.mem_cons, not_or]
    rw [← Bool.decide_and, decide_eq_decide]
    exact and_comm

lemma nodup_keys_foldl_erase {t : Table α β} (h : t.keys.Nodup) (ks : List α) :
    (ks.foldl erase t).keys.Nodup := by
  induction ks generalizing t with
  | nil => exact h
  | cons k ks ih => exact ih (nodup_keys_erase h k)

end Table

namespace Forest

variable {f : Forest} {j k : Key}

lemma node_setActive (f : Forest) (k j : Key) (b : Bool) :
    (f.setActive k b).node j =
      if j = k ∧ f.IsNode k then { f.node k with active := b } else f.node j :=
  node_modify f k j _

lemma node_setActive_of_ne (h : j ≠ k) (b : Bool) : (f.setActive k b).node j = f.node j := by
  rw [node_setActive, if_neg (fun hj => h hj.1)]

/-- A key without a node counts as active from the start. -/
lemma active_setActive_self (f : Forest) (k : Key) : ((f.setActive k true).node k).active = true := by
  rw [node_setActive]
  split
  · rfl
  · next hk => rw [node_of_not_isNode fun h => hk ⟨rfl, h⟩]; rfl

lemma isNode_setActive (f : Forest) (k : Key) (b : Bool) : (f.setActive k b).IsNode j ↔ f.IsNode j :=
  isNode_of_length (length_modify f k _)

lemma node_foldl_setActive (ks : List Key) (f : Forest) (j : Key) (b : Bool) :
    (ks.foldl (fun f k => f.setActive k b) f).node j =
      if j ∈ ks ∧ f.IsNode j then { f.node j with active := b } else f.node j := by
  induction ks generalizing f with
  | nil => simp
  | cons k ks ih =>
    rw [List.foldl_cons, ih]
    simp only [isNode_setActive, node_setActive]
    by_cases hjk : j = k
    · subst hjk
      by_cases hj : f.IsNode j <;> simp [hj]
    · simp [hjk]

end Forest

open Forest

namespace Registry

/-- The panel activated last is active, and every active panel is entered once, under its own key, and
has its flag set. -/
structure PanelsAgree (g : Registry) (f : Forest) : Prop where
  marked : ∀ k, g.lastActive = some k → k ∈ g.activePanels
  own : ∀ e ∈ g.active.entries, e.1 = e.2
  once : g.active.keys.Nodup
  lit : ∀ k ∈ g.activePanels, (f.node k).active = true

/-- The same of the table alone, whatever the flags are. -/
structure PanelsListed (g : Registry) : Prop where
  marked : ∀ k, g.lastActive = some k → k ∈ g.activePanels
  own : ∀ e ∈ g.active.entries, e.1 = e.2
  once : g.active.keys.Nodup

variable {f f' : Forest} {g g' : Registry}

namespace PanelsListed

lemma of_empty (hactive : g.active = .empty) (hlast : g.lastActive = none) : PanelsListed g := by
  refine ⟨fun k hk => ?_, fun e he => ?_, ?_⟩
  · rw [hlast] at hk
    cases hk
  · rw [hactive] at he
    cases he
  · rw [hactive]
    exact List.nodup_nil

lemma congr (h : PanelsListed g) (hactive : g'.active = g.active)
    (hlast : g'.lastActive = g.lastActive) : PanelsListed g' := by
  have hpanels : g'.activePanels = g.activePanels := congrArg Table.values hactive
  refine ⟨fun k hk => ?_, fun e he => h.own e (hactive ▸ he), hactive ▸ h.once⟩
  rw [hpanels]
  exact h.marked k (hlast ▸ hk)

lemma keys_eq (h : PanelsListed g) : g.active.keys = g.activePanels :=
  List.map_congr_left h.own

lemma own_deactivate (h : PanelsListed g) (f : Forest) (k : Key) :
    ∀ e ∈ (g.deactivate f k).1.active.entries, e.1 = e.2 := by
  intro e he
  rw [Registry.deactivate, Table.erase] at he
  exact h.own e (List.mem_filter.mp he).1

lemma mem_deactivate (h : PanelsListed g) (f : Forest) (j k : Key) :
    j ∈ (g.deactivate f k).1.activePanels ↔ j ∈ g.activePanels ∧ j ≠ k := by
  have hkeys : (g.deactivate f k).1.active.keys = (g.deactivate f k).1.activePanels :=
    List.map_congr_left (h.own_deactivate f k)
  rw [← hkeys, ← h.keys_eq]
  simp [Registry.deactivate, Table.keys, Table.erase]

lemma deactivate (h : PanelsListed g) (f : Forest) (k : Key) :
    PanelsListed (g.deactivate f k).1 := by
  refine ⟨fun j hj => ?_, h.own_deactivate f k, Table.nodup_keys_erase h.once k⟩
  rw [Registry.deactivate] at hj
  dsimp only at hj
  split at hj
  · cases hj
  · next hne => exact (h.mem_deactivate f j k).mpr ⟨h.marked j hj, fun hjk => hne (hjk ▸ hj)⟩

end PanelsListed

/-- A reference is dropped with its panel: it is as if the panel were switched off before. -/
lemma panels_drop (g : Registry) (f : Forest) (i : RefId) :
    (∃ k, (g.reference i).binding = .bound k ∧ g.active.contains k = true ∧
        (g.drop f i).1.active = (g.deactivate f k).1.active ∧
        (g.drop f i).1.lastActive = (g.deactivate f k).1.lastActive ∧
        (g.drop f i).2 = (g.deactivate f k).2) ∨
      ((∀ k, (g.reference i).binding = .bound k → g.active.contains k = false) ∧
        (g.drop f i).1.active = g.active ∧ (g.drop f i).1.lastActive = g.lastActive ∧
        (g.drop f i).2 = f) := by
  rw [Registry.drop]
  cases hb : (g.reference i).binding with
  | never => exact .inr ⟨by simp, rfl, rfl, rfl⟩
  | released k => exact .inr ⟨by simp, rfl, rfl, rfl⟩
  | bound k =>
    cases hk : g.active.contains k with
    | true =>
      simp only [Binding.node?, hk, if_true]
      exact .inl ⟨k, rfl, hk, rfl, rfl, rfl⟩
    | false =>
      simp only [Binding.node?, hk]
      exact .inr ⟨by simpa using hk, rfl, rfl, rfl⟩

namespace PanelsAgree

lemma listed (h : PanelsAgree g f) : PanelsListed g := ⟨h.marked, h.own, h.once⟩

lemma of_listed (h : PanelsListed g) (hlit : ∀ k ∈ g.activePanels, (f.node k).active = true) :
    PanelsAgree g f := ⟨h.marked, h.own, h.once, hlit⟩

lemma of_empty (hactive : g.active = .empty) (hlast : g.lastActive = none) : PanelsAgree g f := by
  refine of_listed (.of_empty hactive hlast) fun k hk => ?_
  rw [activePanels, hactive] at hk
  cases hk

lemma congr (h : PanelsAgree g f) (hactive : g'.active = g.active)
    (hlast : g'.lastActive = g.lastActive)
    (hflags : ∀ k ∈ g.activePanels, (f'.node k).active = (f.node k).active) :
    PanelsAgree g' f' := by
  refine of_listed (h.listed.congr hactive hlast) fun k hk => ?_
  rw [activePanels, hactive] at hk
  rw [hflags k hk]
  exact h.lit k hk

lemma deactivate (h : PanelsAgree g f) (k : Key) :
    PanelsAgree (g.deactivate f k).1 (g.deactivate f k).2 := by
  refine of_listed (h.listed.deactivate f k) fun j hj => ?_
  obtain ⟨hj, hne⟩ := (h.listed.mem_deactivate f j k).mp hj
  rw [Registry.deactivate, node_setActive_of_ne hne]
  exact h.lit j hj

lemma drop (h : PanelsAgree g f) (i : RefId) : PanelsAgree (g.drop f i).1 (g.drop f i).2 := by
  obtain ⟨k, -, -, hactive, hlast, hforest⟩ | ⟨-, hactive, hlast, hforest⟩ := panels_drop g f i
  · rw [hforest]
    exact (h.deactivate k).congr hactive hlast fun _ _ => rfl
  · rw [hforest]
    exact h.congr hactive hlast fun _ _ => rfl

end PanelsAgree

end Registry

namespace Workspace

open Registry

variable {f : Forest} {u v w : Workspace} {j k : Key} {keepLast : Bool}

/-! ### Activating -/

/-- The panels that an activation switches off. -/
def switchedOff (w : Workspace) (k : Key) (exclusive keepLast : Bool) : List Key :=
  if exclusive then w.registry.activePanels.filter fun o => !survives w.registry k keepLast o else []

lemma activate_eq (w : Workspace) (k : Key) (exclusive keepLast : Bool) :
    w.activate k exclusive keepLast =
      { w with
        forest :=
          ((w.switchedOff k exclusive keepLast).foldl (fun f o => f.setActive o false)
            w.forest).setActive k true
        registry :=
          { w.registry with
            active := ((w.switchedOff k exclusive keepLast).foldl Table.erase w.registry.active).put k k
            lastActive := some k } } := rfl

lemma not_mem_switchedOff_self (w : Workspace) (k : Key) (exclusive keepLast : Bool) :
    k ∉ w.switchedOff k exclusive keepLast := by
  rw [switchedOff]
  split
  · simp [survives]
  · exact List.not_mem_nil

lemma survives_iff {g : Registry} :
    survives g k keepLast j = true ↔ j = k ∨ keepLast = true ∧ g.lastActive = some j := by
  simp [survives]

section Activate

variable (h : PanelsListed w.registry) (exclusive : Bool)

include h

lemma own_activate :
    ∀ e ∈ (w.activate k exclusive keepLast).registry.active.entries, e.1 = e.2 := by
  intro e he
  rw [activate_eq] at he
  rcases Table.mem_of_mem_insert he with rfl | he
  · rfl
  · rw [Table.entries_foldl_erase] at he
    exact h.own e (List.mem_filter.mp he).1

lemma mem_activePanels_activate :
    j ∈ (w.activate k exclusive keepLast).registry.activePanels ↔
      j = k ∨ j ∈ w.registry.activePanels ∧ j ∉ w.switchedOff k exclusive keepLast := by
  have hkeys : (w.activate k exclusive keepLast).registry.active.keys =
      (w.activate k exclusive keepLast).registry.activePanels :=
    List.map_congr_left (own_activate h exclusive)
  rw [← hkeys, activate_eq, Table.mem_keys_put, Table.keys, Table.entries_foldl_erase, ← h.keys_eq]
  simp [Table.keys]

lemma panelsListed_activate (k : Key) (keepLast : Bool) :
    PanelsListed (w.activate k exclusive keepLast).registry := by
  refine ⟨fun j hj => ?_, own_activate h exclusive,
    Table.nodup_keys_put (Table.nodup_keys_foldl_erase h.once _) k k⟩
  cases hj
  exact (mem_activePanels_activate h exclusive).mpr (.inl rfl)

end Activate

lemma panelsAgree_activate (h : PanelsAgree w.registry w.forest) (k : Key) (exclusive keepLast : Bool) :
    PanelsAgree (w.activate k exclusive keepLast).registry
      (w.activate k exclusive keepLast).forest := by
  refine .of_listed (panelsListed_activate h.listed exclusive k keepLast) fun j hj => ?_
  rw [activate_eq]
  by_cases hjk : j = k
  · rw [hjk]
    exact active_setActive_self _ k
  · obtain ⟨hj, hoff⟩ := ((mem_activePanels_activate h.listed exclusive).mp hj).resolve_left hjk
    rw [node_setActive_of_ne hjk, node_foldl_setActive, if_neg fun hj' => hoff hj'.1]
    exact h.lit j hj

/-- What an exclusive activation leaves: the panel itself and, with `keepLast`, the one activated
before it. All other panels that were active are switched off, and nothing else happens to any
node. -/
structure ActivatedAlone (w v : Workspace) (k : Key) (keepLast : Bool) : Prop where
  members : ∀ j, j ∈ v.registry.activePanels ↔
    j = k ∨ keepLast = true ∧ w.registry.lastActive = some j
  marker : v.registry.lastActive = some k
  on : w.forest.IsNode k → v.forest.node k = { w.forest.node k with active := true }
  off : ∀ j ∈ w.registry.activePanels, j ∉ v.registry.activePanels → w.forest.IsNode j →
    v.forest.node j = { w.forest.node j with active := false }
  others : ∀ j, j ≠ k → j ∉ w.registry.activePanels ∨ j ∈ v.registry.activePanels →
    v.forest.node j = w.forest.node j

lemma mem_switchedOff : j ∈ w.switchedOff k true keepLast ↔
    j ∈ w.registry.activePanels ∧ ¬ (j = k ∨ keepLast = true ∧ w.registry.lastActive = some j) := by
  rw [switchedOff, if_pos rfl, List.mem_filter, ← survives_iff (g := w.registry)]
  simp

lemma activatedAlone_activate (h : PanelsAgree w.registry w.forest) (k : Key) (keepLast : Bool) :
    ActivatedAlone w (w.activate k true keepLast) k keepLast := by
  have hmembers : ∀ j, j ∈ (w.activate k true keepLast).registry.activePanels ↔
      j = k ∨ keepLast = true ∧ w.registry.lastActive = some j := by
    intro j
    rw [mem_activePanels_activate h.listed, mem_switchedOff]
    constructor
    · rintro (hjk | ⟨hj, hoff⟩)
      · exact .inl hjk
      · by_contra hs
        exact hoff ⟨hj, hs⟩
    · rintro (hjk | ⟨hkeep, hlast⟩)
      · exact .inl hjk
      · -- the marker is spared as a member, which it is
        exact .inr ⟨h.marked j hlast, fun hoff => hoff.2 (.inr ⟨hkeep, hlast⟩)⟩
  refine ⟨hmembers, rfl, fun hk => ?_, fun j hj hleft hnode => ?_, fun j hjk hj => ?_⟩
  · have hlength := isNode_of_length (g := (w.switchedOff k true keepLast).foldl
      (fun f o => f.setActive o false) w.forest) (length_foldl_modify w.forest _ _) (k := k)
    rw [activate_eq, node_setActive, if_pos ⟨rfl, hlength.mpr hk⟩, node_foldl_setActive,
      if_neg fun hoff => not_mem_switchedOff_self w k true keepLast hoff.1]
  · rw [hmembers] at hleft
    rw [activate_eq, node_setActive_of_ne fun hjk => hleft (.inl hjk), node_foldl_setActive,
      if_pos ⟨mem_switchedOff.mpr ⟨hj, hleft⟩, hnode⟩]
  · rw [hmembers] at hj
    rw [activate_eq, node_setActive_of_ne hjk, node_foldl_setActive, if_neg]
    rintro ⟨hoff, -⟩
    obtain ⟨hin, hout⟩ := mem_switchedOff.mp hoff
    exact hj.elim (fun hj => hj hin) hout

/-! ### Steps -/

/-- One step of a registry whose panels are switched by nobody else: what is done besides keeps the
table of active panels, the panel activated last and the flags of the active panels. -/
inductive PanelStep (w : Workspace) : Workspace → Prop where
  | activate (k : Key) (exclusive keepLast : Bool) : PanelStep w (w.activate k exclusive keepLast)
  | deactivate (k : Key) : PanelStep w (w.deactivate k)
  | setPanelActive (key : ElementKey) (isActive deactivateOthers keepLast : Bool) :
      PanelStep w (w.setPanelActive key isActive deactivateOthers keepLast).1
  | togglePanel (key : ElementKey) : PanelStep w (w.togglePanel key).1
  | remove (key : ElementKey) : PanelStep w (w.remove key).1
  | removeMissing : PanelStep w w.removeMissing.1
  | bindScene (s : SceneId) : PanelStep w (w.bindScene s).1
  | besides {v : Workspace} (active : v.registry.active = w.registry.active)
      (last : v.registry.lastActive = w.registry.lastActive)
      (flags : ∀ k ∈ w.registry.activePanels, (v.forest.node k).active = (w.forest.node k).active) :
      PanelStep w v

lemma panels_reportAll (w : Workspace) (ds : List Diagnostic) :
    (w.reportAll ds).registry = w.registry ∧ (w.reportAll ds).forest = w.forest := by
  induction ds generalizing w with
  | nil => exact ⟨rfl, rfl⟩
  | cons d ds ih => exact ih (w.report d)

/-- Binding to a scene leaves no panel active. -/
lemma panels_bindScene (w : Workspace) (s : SceneId) :
    (w.bindScene s).1.registry.active = .empty ∧ (w.bindScene s).1.registry.lastActive = none := by
  obtain ⟨store, byPath, byKey, events, -, heq⟩ := bindScene_frame w s
  rw [heq]
  exact ⟨rfl, rfl⟩

section Step

variable (h : PanelsAgree w.registry w.forest)

include h

lemma panelsAgree_panel (key : ElementKey) :
    PanelsAgree (w.panel key).1.registry (w.panel key).1.forest := by
  obtain ⟨hregistry, hforest⟩ := panels_reportAll w (w.registry.panel w.forest key).2
  rw [panel, hregistry, hforest]
  exact h

lemma panelsAgree_setPanelActive (key : ElementKey) (isActive others keepLast : Bool) :
    PanelsAgree (w.setPanelActive key isActive others keepLast).1.registry
      (w.setPanelActive key isActive others keepLast).1.forest := by
  have hp := panelsAgree_panel h key
  rw [setPanelActive]
  split
  · next heq => rwa [heq] at hp
  · next u k heq =>
    rw [heq] at hp
    dsimp only
    split
    · exact panelsAgree_activate hp k others keepLast
    · exact hp.deactivate k

lemma panelsAgree_togglePanel (key : ElementKey) :
    PanelsAgree (w.togglePanel key).1.registry (w.togglePanel key).1.forest := by
  have hp := panelsAgree_panel h key
  rw [togglePanel]
  split
  · next heq => rwa [heq] at hp
  · next u k heq =>
    rw [heq] at hp
    dsimp only
    split
    · exact hp.deactivate k
    · exact panelsAgree_activate hp k false false

lemma panelsAgree_remove (key : ElementKey) :
    PanelsAgree (w.remove key).1.registry (w.remove key).1.forest := by
  obtain ⟨i, -, -, heq⟩ | ⟨d, heq⟩ := remove_cases w key
  · rw [heq]
    exact h.drop i
  · rw [heq]
    exact h

lemma panelsAgree_foldl_drop (is : List RefId) :
    PanelsAgree (is.foldl drop w).registry (is.foldl drop w).forest := by
  induction is generalizing w with
  | nil => exact h
  | cons i is ih => exact ih (w := w.drop i) (h.drop i)

/-- No step lets the panels disagree. -/
lemma PanelStep.agree (hstep : PanelStep w v) : PanelsAgree v.registry v.forest := by
  cases hstep with
  | activate k exclusive keepLast => exact panelsAgree_activate h k exclusive keepLast
  | deactivate k => exact h.deactivate k
  | setPanelActive key isActive others keepLast =>
    exact panelsAgree_setPanelActive h key isActive others keepLast
  | togglePanel key => exact panelsAgree_togglePanel h key
  | remove key => exact panelsAgree_remove h key
  | removeMissing => exact panelsAgree_foldl_drop h w.missing
  | bindScene s => exact .of_empty (panels_bindScene w s).1 (panels_bindScene w s).2
  | besides active last flags => exact h.congr active last flags

end Step

/-! ### Runs -/

lemma panels_ofDocument (f : Forest) (d : RegistryDocument) :
    (Registry.ofDocument f d).active = .empty ∧ (Registry.ofDocument f d).lastActive = none := by
  have hfold : ∀ (cs : List StoredCategory) (g : Registry),
      (cs.foldl ofCategory g).active = g.active ∧
        (cs.foldl ofCategory g).lastActive = g.lastActive := by
    intro cs
    induction cs with
    | nil => exact fun g => ⟨rfl, rfl⟩
    | cons c cs ih => exact fun g => ih (g.ofCategory c)
  exact hfold d.categories _

lemma panels_start (f : Forest) (o : Origin) (namer : Option Standardizer) :
    (start f o namer).registry.active = .empty ∧ (start f o namer).registry.lastActive = none := by
  cases o with
  | blank => exact ⟨rfl, rfl⟩
  | scene s => exact ⟨rfl, rfl⟩
  | document d => exact panels_ofDocument f d

lemma panelsAgree_start (f : Forest) (o : Origin) (namer : Option Standardizer) :
    PanelsAgree (start f o namer).registry (start f o namer).forest :=
  .of_empty (panels_start f o namer).1 (panels_start f o namer).2

/-- **Panels.** Whatever is done with a registry, the panel activated last is active, every active
panel stands under its own key and has its flag set, and in every state that is reached an exclusive
activation leaves just the panel and, if asked to, the one activated before. -/
theorem panels_of_steps {f : Forest} {o : Origin} {namer : Option Standardizer} {w : Workspace}
    (hsteps : Relation.ReflTransGen PanelStep (start f o namer) w) :
    PanelsAgree w.registry w.forest ∧
      ∀ k keepLast, ActivatedAlone w (w.activate k true keepLast) k keepLast := by
  have hagree : PanelsAgree w.registry w.forest := by
    induction hsteps with
    | refl => exact panelsAgree_start f o namer
    | tail _ hstep ih => exact hstep.agree ih
  exact ⟨hagree, activatedAlone_activate hagree⟩

/-- Three panels, all switched off. -/
def threePanels : Forest := ⟨[.new "A_Panel" [] false, .new "B_Panel" [] false,
  .new "C_Panel" [] false], [], []⟩

/-- The state after the first two of the three panels have been switched on. -/
def twoOfThree : Workspace :=
  ((start threePanels .blank none).activate 1 false false).activate 2 true true

/-- When the third panel is activated alone, the second can be spared and the first cannot. -/
theorem panels_of_steps_twoOfThree :
    (twoOfThree.registry.activePanels = [1, 2] ∧ twoOfThree.registry.lastActive = some 2 ∧
      (twoOfThree.activate 3 true true).registry.activePanels = [2, 3]) ∧
      Relation.ReflTransGen PanelStep (start threePanels .blank none) twoOfThree ∧
      PanelsAgree twoOfThree.registry twoOfThree.forest ∧
      ∀ k keepLast, ActivatedAlone twoOfThree (twoOfThree.activate k true keepLast) k keepLast := by
  have hsteps : Relation.ReflTransGen PanelStep (start threePanels .blank none) twoOfThree :=
    .tail (.single (.activate 1 false false)) (.activate 2 true true)
  exact ⟨by decide, hsteps, panels_of_steps hsteps⟩

/-! ### Panels of one scene -/

def mainScene : Workspace := start (Forest.empty.edit (.addScene "Main")) (.scene 0) none

/-- Panels of the given names, visible from the start, are made roots of the scene and registered. -/
def loadingPanels (names : List String) : List Action :=
  names.zipIdx.flatMap fun (name, n) =>
    [.edit (.create name [Component.new .image] true), .edit (.addRoot 0 (n + 1)),
      .add (some (n + 1)) .standard none]

end Workspace

end SceneBindings
