import SceneBindings.Proofs.Registry.Panels
import SceneBindings.Proofs.Registry.PathIndex

/-!
What the table of active panels and its marker point to. A panel whose reference is dropped or bound
anew with the whole scene is switched off. A repair does not do that: when a reference whose node was
destroyed finds another node, the destroyed one stays among the active panels.
-/

namespace SceneBindings

open Forest

namespace Registry

variable {f : Forest} {g g' : Registry} {i : RefId} {k : Key}

/-- A key that the table of active panels holds or that is marked as the last one activated. -/
def Points (g : Registry) (k : Key) : Prop := k ∈ g.activePanels ∨ g.lastActive = some k

/-- The key is that of a node that a reference in the lists is bound to. -/
def Holds (g : Registry) (k : Key) : Prop := ∃ i ∈ g.ids, (g.reference i).binding = .bound k

def NoStale (g : Registry) : Prop := ∀ k, g.Points k → g.Holds k

instance (g : Registry) (k : Key) : Decidable (g.Holds k) := inferInstanceAs (Decidable (∃ i ∈ _, _))

instance (g : Registry) : Decidable g.NoStale :=
  decidable_of_iff (∀ k ∈ g.activePanels ++ g.lastActive.toList, g.Holds k) <| by
    simp [NoStale, Points]

lemma PanelsListed.mem_of_points (h : PanelsListed g) (hk : g.Points k) : k ∈ g.activePanels :=
  hk.elim id (h.marked k)

lemma Holds.of_lists (h : g.Holds k) (hs : g'.store = g.store)
    (hc : g'.categories = g.categories) : g'.Holds k := by
  simpa [Holds, ids, reference, hs, hc] using h

lemma PanelsListed.drop (h : PanelsListed g) (f : Forest) (i : RefId) :
    PanelsListed (g.drop f i).1 := by
  obtain ⟨k, -, -, hactive, hlast, -⟩ | ⟨-, hactive, hlast, -⟩ := panels_drop g f i
  · exact (h.deactivate f k).congr hactive hlast
  · exact h.congr hactive hlast

/-- A reference that is dropped takes its node out of the active panels. -/
lemma PanelsListed.mem_drop (h : PanelsListed g) (hk : k ∈ (g.drop f i).1.activePanels) :
    k ∈ g.activePanels ∧ (g.reference i).binding ≠ .bound k := by
  obtain ⟨l, hl, -, hactive, -, -⟩ | ⟨hidle, hactive, -, -⟩ := panels_drop g f i
  · rw [activePanels, hactive] at hk
    obtain ⟨hk, hkl⟩ := (h.mem_deactivate f k l).mp hk
    refine ⟨hk, fun hb => hkl ?_⟩
    rw [hl] at hb
    exact (Binding.bound.inj hb).symm
  · rw [activePanels, hactive] at hk
    refine ⟨hk, fun hb => ?_⟩
    have hknown : g.active.contains k = true := by
      rw [Table.contains, Table.get?, Table.lookup_isSome, ← Table.keys, h.keys_eq]
      exact hk
    rw [hidle k hb] at hknown
    cases hknown

/-- Of the nodes that are held, a reference that is dropped lets go at most its own. -/
lemma Holds.drop (h : g.Holds k) (hne : (g.reference i).binding ≠ .bound k) :
    (g.drop f i).1.Holds k := by
  obtain ⟨j, hj, hjk⟩ := h
  have hji : j ≠ i := by
    rintro rfl
    exact hne hjk
  refine ⟨j, ?_, ?_⟩
  · rw [ids_drop]
    exact mem_removeMember_of_ne hj hji
  · rw [reference_drop, if_neg hji, hjk]

/-- What the path index finds is listed, so the node found there is held. -/
lemma Sound.holds_of_lookup (hs : Sound f g) {p : String} (h : g.lookup f none p = .ok k) :
    g.Holds k := by
  rw [lookup] at h
  split at h
  · cases h
  · next i hi =>
    refine ⟨i, (hs.entry p i hi).2, ?_⟩
    cases hb : (g.reference i).binding with
    | bound l =>
      simp only [Option.filter_none, hb, Binding.node?] at h
      split at h
      · cases h
        rfl
      · cases h
    | never => simp [hb, Binding.node?] at h
    | released l => simp [hb, Binding.node?] at h

/-- A panel that is found is held, and nothing is said about it. -/
lemma Sound.holds_of_panel (hs : Sound f g) {key : ElementKey} (h : (g.panel f key).1 = some k) :
    (g.panel f key).2 = [] ∧ g.Holds k := by
  obtain ⟨hsilent, hresolve⟩ : (g.panel f key).2 = [] ∧ g.resolve f key = .ok k := by
    rw [Registry.panel] at h ⊢
    split at h
    · cases h
    · next l hl =>
      dsimp only at h ⊢
      split at h
      · next hpanel =>
        cases h
        exact ⟨by rw [if_pos hpanel], hl⟩
      · cases h
  refine ⟨hsilent, ?_⟩
  cases key with
  | path p => exact hs.holds_of_lookup hresolve
  | key given l =>
    rw [resolve] at hresolve
    split at hresolve
    · exact hs.holds_of_lookup hresolve
    · cases hresolve

end Registry

namespace Workspace

open Registry

variable {u v w : Workspace} {i : RefId} {j k : Key} {a : Action} {as : List Action}

/-- A repair takes the reference of an active panel to another node, and no other reference has the
panel. -/
def Abandons (k : Key) (w v : Workspace) : Prop :=
  k ∈ w.registry.activePanels ∧ ∃ s, ∃ i ∈ w.missing,
    v = (w.repairOne s i).1 ∧ (w.registry.reference i).binding = .bound k ∧
      (v.registry.reference i).binding ≠ .bound k ∧
        ∀ j ∈ w.registry.ids, j ≠ i → (w.registry.reference j).binding ≠ .bound k

/-- The node of a panel that is abandoned is destroyed. -/
lemma Abandons.not_isAlive (h : Abandons k w v) : ¬ w.forest.IsAlive k := by
  obtain ⟨-, s, i, hi, -, hik, -⟩ := h
  intro ha
  have hbound := Reference.isBound_iff.mpr ⟨k, hik, ha⟩
  rw [(mem_missing.mp hi).2] at hbound
  cases hbound

lemma Abandons.not_noStale (h : Abandons k w v) : ¬ v.registry.NoStale := by
  obtain ⟨hk, s, i, -, rfl, -, hmoved, hothers⟩ := h
  have htouches := touches_repairOne w s i
  intro hv
  rw [activePanels, ← htouches.active] at hk
  obtain ⟨j, hj, hjk⟩ := hv k (.inl hk)
  by_cases hji : j = i
  · rw [hji] at hjk
    exact hmoved hjk
  · rw [htouches.ids] at hj
    rw [htouches.others j hji] at hjk
    exact hothers j hj hji hjk

/-- What a step does to the panels. Of a panel that is active after it, either the node is held by a
reference or the panel was active before; and a node that was held is let go only by such a repair. -/
structure Accounts (w v : Workspace) : Prop where
  listed : PanelsListed v.registry
  active : ∀ k ∈ v.registry.activePanels, v.registry.Holds k ∨
    k ∈ w.registry.activePanels ∧ (w.registry.Holds k → v.registry.Holds k ∨ Abandons k w v)

namespace Accounts

section

variable (hl : PanelsListed w.registry)
include hl

lemma of_quiet (h : w.Quiet v) (hactive : v.registry.active = w.registry.active)
    (hlast : v.registry.lastActive = w.registry.lastActive) : w.Accounts v where
  listed := hl.congr hactive hlast
  active k hk := by
    rw [activePanels, hactive] at hk
    exact .inr ⟨hk, fun hheld => .inl (hheld.of_lists h.store h.categories)⟩

/-- Where every listed reference keeps its binding, what was held is held. -/
lemma of_grows (hs : Sound w.forest w.registry) (h : Grows w v) : w.Accounts v where
  listed := hl.congr h.active h.lastActive
  active k hk := by
    rw [activePanels, h.active] at hk
    refine .inr ⟨hk, ?_⟩
    rintro ⟨i, hi, hik⟩
    exact .inl ⟨i, h.ids i hi, by rw [h.bindings i (hs.stored i hi), hik]⟩

lemma repairOne (s : SceneId) (gone : i ∈ w.missing) :
    w.Accounts (w.repairOne s i).1 := by
  have h := touches_repairOne w s i
  refine ⟨hl.congr h.active h.lastActive, fun k hk => ?_⟩
  rw [activePanels, h.active] at hk
  refine .inr ⟨hk, fun hheld => ?_⟩
  by_cases hother : ∃ j ∈ w.registry.ids, j ≠ i ∧ (w.registry.reference j).binding = .bound k
  · obtain ⟨j, hj, hji, hjk⟩ := hother
    exact .inl ⟨j, h.ids ▸ hj, by rw [h.others j hji, hjk]⟩
  · -- only the reference under repair has the panel, so all depends on what it is bound to now
    obtain ⟨j, hj, hjk⟩ := hheld
    obtain rfl : j = i := by
      by_contra hji
      exact hother ⟨j, hj, hji, hjk⟩
    by_cases hkept : ((w.repairOne s j).1.registry.reference j).binding = .bound k
    · exact .inl ⟨j, h.ids ▸ hj, hkept⟩
    · exact .inr ⟨hk, s, j, gone, rfl, hjk, hkept, fun l hl hlj hlk => hother ⟨l, hl, hlj, hlk⟩⟩

lemma drop (i : RefId) : w.Accounts (w.drop i) where
  listed := PanelsListed.drop hl w.forest i
  active _ hk := .inr ⟨(hl.mem_drop hk).1, fun hheld => .inl (hheld.drop (hl.mem_drop hk).2)⟩

lemma remove (key : ElementKey) : w.Accounts (w.remove key).1 := by
  obtain ⟨i, -, -, heq⟩ | ⟨d, heq⟩ := remove_cases w key
  · rw [heq]
    exact drop hl i
  · rw [heq]
    exact of_quiet hl (.report w d) rfl rfl

lemma deactivate (k : Key) : w.Accounts (w.deactivate k) where
  listed := PanelsListed.deactivate hl w.forest k
  active j hj := .inr ⟨((hl.mem_deactivate w.forest j k).mp hj).1, .inl⟩

lemma activate (hk : w.registry.Holds k) (exclusive keepLast : Bool) :
    w.Accounts (w.activate k exclusive keepLast) where
  listed := panelsListed_activate hl exclusive k keepLast
  active j hj := by
    rcases (mem_activePanels_activate hl exclusive).mp hj with rfl | ⟨hj, -⟩
    · exact .inl hk
    · exact .inr ⟨hj, .inl⟩

end

lemma bindScene (w : Workspace) (s : SceneId) : w.Accounts (w.bindScene s).1 := by
  obtain ⟨hactive, hlast⟩ := panels_bindScene w s
  refine ⟨.of_empty hactive hlast, fun k hk => ?_⟩
  rw [activePanels, hactive] at hk
  cases hk

section Panel

variable {key : ElementKey}

lemma panel_none (hl : PanelsListed w.registry) (h : w.panel key = (u, none)) : w.Accounts u := by
  obtain rfl : (w.panel key).1 = u := by rw [h]
  have hregistry := (panels_reportAll w (w.registry.panel w.forest key).2).1
  exact of_quiet hl (.panel w key) (congrArg Registry.active hregistry)
    (congrArg Registry.lastActive hregistry)

lemma panel_some (hs : Sound w.forest w.registry) (h : w.panel key = (u, some k)) :
    u = w ∧ w.registry.Holds k := by
  obtain rfl : (w.panel key).1 = u := by rw [h]
  obtain ⟨hsilent, hheld⟩ := hs.holds_of_panel (congrArg Prod.snd h)
  exact ⟨congrArg w.reportAll hsilent, hheld⟩

end Panel

section Switch

variable (hs : Sound w.forest w.registry) (hl : PanelsListed w.registry)
include hs hl

lemma setPanelActive (key : ElementKey) (isActive others keepLast : Bool) :
    w.Accounts (w.setPanelActive key isActive others keepLast).1 := by
  rw [Workspace.setPanelActive]
  split
  · next h => exact panel_none hl h
  · next h =>
    obtain ⟨rfl, hk⟩ := panel_some hs h
    dsimp only
    split
    · exact activate hl hk others keepLast
    · exact deactivate hl _

lemma togglePanel (key : ElementKey) : w.Accounts (w.togglePanel key).1 := by
  rw [Workspace.togglePanel]
  split
  · next h => exact panel_none hl h
  · next h =>
    obtain ⟨rfl, hk⟩ := panel_some hs h
    dsimp only
    split
    · exact deactivate hl _
    · exact activate hl hk false false

lemma isPanelVisible (key : ElementKey) : w.Accounts (w.isPanelVisible key).1 := by
  rw [Workspace.isPanelVisible]
  split
  · next h => exact panel_none hl h
  · next h =>
    obtain ⟨rfl, -⟩ := panel_some hs h
    exact of_quiet hl (.refl _) rfl rfl

end Switch

end Accounts

/-- Panels are activated only where they are asked for as elements. -/
def ByElement (as : List Action) : Prop :=
  ∀ k exclusive keepLast, Action.activate k exclusive keepLast ∉ as

lemma accounts_stageOf (hs : Sound w.forest w.registry) (hl : PanelsListed w.registry)
    (has : ByElement as) (h : StageOf as w v) : w.Accounts v := by
  obtain ⟨a, ha, hstage⟩ := h
  cases hstage with
  | edit e => exact .of_quiet hl (.edit w e) rfl rfl
  | add k probe standardize => exact .of_grows hl hs (.add w k probe standardize)
  | addEach k probe ks => exact .of_grows hl hs (.add w k probe none)
  | remove key => exact .remove hl key
  | bindScene s => exact .bindScene w s
  | repairEach s gone => exact .repairOne hl s gone
  | dropEach listed => exact .drop hl _
  | refreshEach listed => exact .of_grows hl hs (.refreshOne w _)
  | setPanelActive key isActive others keepLast =>
    exact .setPanelActive hs hl key isActive others keepLast
  | togglePanel key => exact .togglePanel hs hl key
  | isPanelVisible key => exact .isPanelVisible hs hl key
  | activate k exclusive keepLast => exact absurd ha (has k exclusive keepLast)
  | deactivate k => exact .deactivate hl k

/-! ### Runs -/

/-- Every live node that is pointed to is held. -/
def LiveHeld (w : Workspace) : Prop :=
  ∀ k, w.registry.Points k → w.forest.IsAlive k → w.registry.Holds k

lemma Accounts.liveHeld (h : w.Accounts v) (hf : w.forest.NoneRevived v.forest) (hw : w.LiveHeld) :
    v.LiveHeld := by
  intro k hk ha
  obtain hheld | ⟨hold, hkept⟩ := h.active k (h.listed.mem_of_points hk)
  · exact hheld
  · exact (hkept (hw k (.inl hold) (hf k ha))).resolve_right fun hgone => hgone.not_isAlive (hf k ha)

lemma Accounts.noStale (h : w.Accounts v) (hnone : ∀ k, ¬ Abandons k w v)
    (hw : w.registry.NoStale) : v.registry.NoStale := by
  intro k hk
  obtain hheld | ⟨hold, hkept⟩ := h.active k (h.listed.mem_of_points hk)
  · exact hheld
  · exact (hkept (hw k (.inl hold))).resolve_right (hnone k)

lemma noStale_start (f : Forest) (o : Origin) (namer : Option Standardizer) :
    (start f o namer).registry.NoStale := by
  obtain ⟨hactive, hlast⟩ := panels_start f o namer
  rintro k (hk | hk)
  · rw [activePanels, hactive] at hk
    cases hk
  · rw [hlast] at hk
    cases hk

/-- **Panel pointers.** Where panels are activated only as elements, every live node among the active
panels, and the one activated last if it is alive, is held by a listed reference in every state that is
passed. That destroyed nodes are held too holds exactly as long as no repair abandons one. -/
theorem noStale_iff (f : Forest) (o : Origin) (namer : Option Standardizer) {as : List Action}
    (has : ByElement as) :
    (∀ v ∈ (start f o namer).passed as, v.LiveHeld) ∧
      ((∀ v ∈ (start f o namer).passed as, v.registry.NoStale) ↔
        ((start f o namer).passed as).IsChain fun u v => ∀ k, ¬ Abandons k u v) := by
  have hsound := sound_start f o namer
  have hlisted := (panelsAgree_start f o namer).listed
  have hchain := isChain_stageOf hsound as
  refine ⟨fun v hv => ?_, fun hnone => ?_, fun hnone v hv => ?_⟩
  · refine (forall_of_isChain (P := fun v =>
      Sound v.forest v.registry ∧ PanelsListed v.registry ∧ v.LiveHeld) (fun {u v} hu hstage => ?_)
      ⟨hsound, hlisted, fun k hk _ => noStale_start f o namer k hk⟩ hchain v hv).2.2
    obtain ⟨hs, hl, hheld⟩ := hu
    have hstep := accounts_stageOf hs hl has hstage
    exact ⟨sound_stageOf hs hstage, hstep.listed,
      hstep.liveHeld (noneRevived_stageOf hs hstage) hheld⟩
  · exact hchain.imp_of_mem_imp fun u v _ hv _ k habandons =>
      habandons.not_noStale (hnone v hv)
  · have hboth : ((start f o namer).passed as).IsChain fun u v =>
        StageOf as u v ∧ ∀ k, ¬ Abandons k u v :=
      List.isChain_iff_getElem.mpr fun n hn =>
        ⟨List.isChain_iff_getElem.mp hchain n hn, List.isChain_iff_getElem.mp hnone n hn⟩
    refine (forall_of_isChain (P := fun v =>
      Sound v.forest v.registry ∧ PanelsListed v.registry ∧ v.registry.NoStale)
      (fun {u v} hu hstage => ?_) ⟨hsound, hlisted, noStale_start f o namer⟩ hboth v hv).2.2
    obtain ⟨hs, hl, hheld⟩ := hu
    obtain ⟨hstage, hkept⟩ := hstage
    have hstep := accounts_stageOf hs hl has hstage
    exact ⟨sound_stageOf hs hstage, hstep.listed, hstep.noStale hkept hheld⟩

/-- A panel is activated and destroyed, and a node of the same name takes its place. -/
def replacingPanel : List Action :=
  loadingPanels ["A_Panel"] ++
    [.setPanelActive (.path "A_Panel") true true false, .edit (.destroy 1),
      .edit (.create "A_Panel" [Component.new .image] true), .edit (.addRoot 0 2)]

/-- Until the replaced panel is repaired nothing is abandoned; with the repair something is. -/
theorem noStale_iff_of_replacingPanel :
    let before := replacingPanel
    let after := replacingPanel ++ [.repair none]
    (ByElement before ∧ (∀ v ∈ mainScene.passed before, v.registry.NoStale) ∧
        (mainScene.passed before).IsChain fun u v => ∀ k, ¬ Abandons k u v) ∧
      ByElement after ∧ (∀ v ∈ mainScene.passed after, v.LiveHeld) ∧
        ¬ (mainScene.passed after).IsChain fun u v => ∀ k, ¬ Abandons k u v := by
  intro before after
  have hbefore : ByElement before := by simp [ByElement, before, replacingPanel, loadingPanels]
  have hafter : ByElement after := by simp [ByElement, after, replacingPanel, loadingPanels]
  have hheld : ∀ v ∈ mainScene.passed before, v.registry.NoStale := by decide +kernel
  have hstale : ¬ ∀ v ∈ mainScene.passed after, v.registry.NoStale := by decide +kernel
  obtain ⟨-, hiff⟩ := noStale_iff (Forest.empty.edit (.addScene "Main")) (.scene 0) none hbefore
  obtain ⟨hlive, hiff'⟩ := noStale_iff (Forest.empty.edit (.addScene "Main")) (.scene 0) none hafter
  exact ⟨⟨hbefore, hheld, hiff.mp hheld⟩, hafter, hlive, fun hnone => hstale (hiff'.mpr hnone)⟩

/-- After the repair the destroyed panel is still the active one, and no reference has it. -/
theorem stale_of_replacingPanel :
    let g := (mainScene.run (replacingPanel ++ [.repair none])).registry
    ByElement (replacingPanel ++ [.repair none]) ∧ g.activePanels = [1] ∧ g.lastActive = some 1 ∧
      g.references.map (·.binding) = [.bound 2] ∧ ¬ g.NoStale := by
  refine ⟨?_, by decide +kernel⟩
  simp [ByElement, replacingPanel, loadingPanels]

end Workspace

end SceneBindings
