import SceneBindings.Proofs.Registry.Keyed
import SceneBindings.Proofs.Registry.Panels

/-!
Showing a panel alone. Whether a panel is visible is asked of its node, and which panels are hidden is
asked of the table of active panels; a panel that was visible from the start stands in no table, so it
stays visible beside the one that is shown.
-/

namespace SceneBindings.Workspace

open Forest Registry

variable {v w : Workspace} {k l : Key} {p q : String}

/-- The path of a panel whose node is there and alive. -/
def LivePanel (w : Workspace) (p : String) (k : Key) : Prop :=
  ∃ i, w.registry.findPath? p = some i ∧ (w.registry.reference i).binding = .bound k ∧
    (w.registry.reference i).capability = .panel ∧ w.forest.IsNode k ∧ w.forest.IsAlive k

/-- Whether the panel of a path is found and visible. -/
def shows (w : Workspace) (p : String) : Bool := (w.isPanelVisible (.path p)).2

/-- Shows the panel of a path and hides the others. -/
def showAlone (w : Workspace) (p : String) : Workspace × Bool :=
  w.setPanelActive (.path p) true true false

section Keyed

variable (hs : Sound w.forest w.registry) (hkeyed : Keyed w.forest w.registry)
include hs hkeyed

/-- A live panel is found by its path: the key of its node leads back to the path. -/
lemma panel_of_livePanel (hp : w.LivePanel p k) : w.panel (.path p) = (w, some k) := by
  obtain ⟨i, hi, hb, hrole, -, ha⟩ := hp
  obtain ⟨hpath, hlisted⟩ := hs.entry p i hi
  have hkey : w.registry.byKey.get? k = some p := hpath ▸ hkeyed i hlisted k hb ha
  have hpanel : w.registry.panel w.forest (.path p) = (some k, []) := by
    simp [Registry.panel, Registry.resolve, lookup_of_bound hi hb ha, hkey, hi, hrole]
  rw [panel, hpanel]
  rfl

lemma shows_eq (hp : w.LivePanel p k) : w.shows p = (w.forest.node k).active := by
  rw [shows, isPanelVisible, panel_of_livePanel hs hkeyed hp]

lemma showAlone_eq (hp : w.LivePanel p k) : w.showAlone p = (w.activate k true false, true) := by
  rw [showAlone, setPanelActive, panel_of_livePanel hs hkeyed hp]
  rfl

/-- Live panels at different paths are different nodes. -/
lemma ne_of_livePanel (hp : w.LivePanel p k) (hq : w.LivePanel q l) (hne : q ≠ p) : l ≠ k := by
  rintro rfl
  obtain ⟨i, hi, hbi, -, -, ha⟩ := hp
  obtain ⟨j, hj, hbj, -, -, -⟩ := hq
  obtain ⟨hpi, hi⟩ := hs.entry p i hi
  obtain ⟨hqj, hj⟩ := hs.entry q j hj
  rw [← hkeyed.node hs hi hj hbi hbj ha, hpi] at hqj
  exact hne hqj.symm

end Keyed

/-- Switching panels leaves every live panel where it is. -/
lemma livePanel_activate (hq : w.LivePanel q l) (exclusive keepLast : Bool) :
    (w.activate k exclusive keepLast).LivePanel q l := by
  obtain ⟨i, hi, hb, hrole, hnode, ha⟩ := hq
  have hforest : (w.activate k exclusive keepLast).forest.nodes.length = w.forest.nodes.length :=
    (length_modify _ _ _).trans (length_foldl_modify _ _ _)
  have halive : ((w.activate k exclusive keepLast).forest.node l).destroyed =
      (w.forest.node l).destroyed :=
    (node_modify_keeps Node.destroyed _ _ _).trans (node_foldl_modify_keeps Node.destroyed _ _ _)
  exact ⟨i, hi, hb, hrole, (isNode_of_length hforest).mpr hnode, halive.trans ha⟩

/-- Activating a panel alone switches off the other active panels and lets all other nodes be. -/
lemma active_activate_of_ne (hnode : w.forest.IsNode l) (hne : l ≠ k) :
    ((w.activate k true false).forest.node l).active =
      ((w.forest.node l).active && !decide (l ∈ w.registry.activePanels)) := by
  have hoff : l ∈ w.switchedOff k true false ↔ l ∈ w.registry.activePanels := by
    simp [mem_switchedOff, hne]
  rw [activate_eq, node_setActive_of_ne hne, node_foldl_setActive]
  by_cases hl : l ∈ w.registry.activePanels
  · rw [if_pos ⟨hoff.mpr hl, hnode⟩]
    simp [hl]
  · rw [if_neg fun h => hl (hoff.mp h.1)]
    simp [hl]

/-- **Showing a panel alone.** In every state of a run that never removes missing references, a live
panel can be shown alone and is visible then. Another live panel is visible afterwards exactly if it was
visible before without standing among the active panels. -/
theorem shows_showAlone_iff (f : Forest) (o : Origin) (namer : Option Standardizer) {as : List Action}
    (has : Action.removeMissing ∉ as) {p : String} {k : Key}
    (hp : ((start f o namer).run as).LivePanel p k) :
    let w := (start f o namer).run as
    (w.showAlone p).2 = true ∧ (w.showAlone p).1.shows p = true ∧
      ∀ q l, q ≠ p → w.LivePanel q l →
        ((w.showAlone p).1.shows q = true ↔ w.shows q = true ∧ l ∉ w.registry.activePanels) := by
  intro w
  obtain ⟨hs, hkeyed⟩ := keyed_passed f o namer has w (run_mem_passed _ as)
  have hquiet := Quiet.activate w k true false
  have hs' : Sound (w.activate k true false).forest (w.activate k true false).registry :=
    sound_quiet hs hquiet
  have hkeyed' : Keyed (w.activate k true false).forest (w.activate k true false).registry :=
    (hkeyed.mono hquiet.forest).of_lists hquiet.store hquiet.categories hquiet.byKey
  rw [showAlone_eq hs hkeyed hp]
  refine ⟨rfl, ?_, fun q l hne hq => ?_⟩
  · rw [shows_eq hs' hkeyed' (livePanel_activate hp true false)]
    exact active_setActive_self _ k
  · have hnode : w.forest.IsNode l := by
      obtain ⟨-, -, -, -, hnode, -⟩ := hq
      exact hnode
    rw [shows_eq hs' hkeyed' (livePanel_activate hq true false), shows_eq hs hkeyed hq,
      active_activate_of_ne hnode (ne_of_livePanel hs hkeyed hp hq hne)]
    simp

/-- Of three panels one has been shown alone. When another is, the first is hidden, and the third, which
was never hidden by anyone, is not. -/
theorem shows_showAlone_iff_of_three :
    let as := loadingPanels ["A_Panel", "B_Panel", "C_Panel"] ++
      [.setPanelActive (.path "C_Panel") true true false]
    let w := mainScene.run as
    (Action.removeMissing ∉ as ∧ w.LivePanel "A_Panel" 1 ∧ w.LivePanel "B_Panel" 2 ∧
        w.LivePanel "C_Panel" 3) ∧
      (w.showAlone "A_Panel").2 = true ∧ (w.showAlone "A_Panel").1.shows "A_Panel" = true ∧
        (w.showAlone "A_Panel").1.shows "B_Panel" = true ∧
          (w.showAlone "A_Panel").1.shows "C_Panel" = false := by
  intro as w
  have has : Action.removeMissing ∉ as := by simp [as, loadingPanels]
  have hA : w.LivePanel "A_Panel" 1 := ⟨0, by decide +kernel⟩
  have hB : w.LivePanel "B_Panel" 2 := ⟨1, by decide +kernel⟩
  have hC : w.LivePanel "C_Panel" 3 := ⟨2, by decide +kernel⟩
  obtain ⟨hdone, hself, hothers⟩ := shows_showAlone_iff _ _ none has hA
  have hB' := (hothers "B_Panel" 2 (by decide) hB).mpr (by decide +kernel)
  have hC' := (not_congr (hothers "C_Panel" 3 (by decide) hC)).mpr (by decide +kernel)
  exact ⟨⟨has, hA, hB, hC⟩, hdone, hself, hB', eq_false_of_ne_true hC'⟩

/-- A panel that was visible when it was loaded stays visible beside the one that is shown. -/
theorem shown_beside :
    let w := mainScene.run (loadingPanels ["A_Panel", "B_Panel"])
    (w.showAlone "A_Panel").2 = true ∧ (w.showAlone "A_Panel").1.shows "A_Panel" = true ∧
      (w.showAlone "A_Panel").1.shows "B_Panel" = true := by
  decide +kernel

end SceneBindings.Workspace
