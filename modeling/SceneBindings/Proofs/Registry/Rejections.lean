import SceneBindings.Proofs.Naming.Letters
import SceneBindings.Proofs.Register.Nodes
import SceneBindings.Proofs.Registry.Reachable
import SceneBindings.Validation.Lax

/-!
Adds that are rejected. They leave the lists and both indices as they were. Names stay too if the node
is rejected before it is renamed; once it has been renamed, it has another name for good. What is
rejected so late has a malformed path, or is a slider that was taken for the area around its own fill.
-/

namespace SceneBindings

/-! ### Renaming changes the name -/

section FillArea

open Naming

lemma partName_bare_slider : partName "Slider" .slider "Fill_Area" = "Slider_Fill_Area" := by
  decide +kernel

lemma normalize_slider_fillArea :
    Name.normalize "Slider_Fill_Area" .slider true = "Fill_Area_Slider" := by
  decide +kernel

/-- The name of the area around a fill has all letters of the slider's base and more, if the slider
lends it a base. -/
lemma letters_partName (base : String) :
    partName (base ++ "_" ++ "Slider") .slider "Fill_Area" = "Slider_Fill_Area" ∨
      letters base.toList + 14 ≤
        letters (partName (base ++ "_" ++ "Slider") .slider "Fill_Area").toList := by
  have hword : Capability.slider.typeWord? = some "Slider" := rfl
  rw [partName_eq hword (by decide), partBase_append (by decide)]
  split
  · exact .inl rfl
  · split
    · exact .inl rfl
    · have hpascal := letters_le_pascal base.toList
      have hend : letters (partEnd "Slider" "Fill_Area").toList = 14 := by decide +kernel
      rw [String.toList_append, String.toList_append, letters_append, letters_append, hend,
        Name.pascal, Name.ofChars, String.toList_ofList]
      omega

/-- The name of the area around a fill, made of the slider's new name, is not the name that the slider
had before: it has more letters. -/
lemma partName_normalize_ne (name : String) :
    partName (Name.normalize name .slider true) .slider "Fill_Area" ≠ name := by
  intro heq
  have hword : Capability.slider.typeWord? = some "Slider" := rfl
  have hnot : name ≠ "Slider_Fill_Area" := by
    rintro rfl
    rw [normalize_slider_fillArea] at heq
    exact absurd heq (by decide +kernel)
  have hchars := Name.toList_normalize hword name
  by_cases hbase : baseFor "Slider".toList name.toList = []
  · rw [withType_of_no_base hbase, String.toList_inj] at hchars
    rw [hchars, partName_bare_slider] at heq
    exact hnot heq.symm
  · obtain ⟨base, hlist⟩ : ∃ base : String, base.toList = baseFor "Slider".toList name.toList :=
      ⟨_, String.toList_ofList⟩
    have hnew : Name.normalize name .slider true = base ++ "_" ++ "Slider" := by
      rw [← String.toList_inj, hchars, withType_of_base hbase, ← hlist]
      simp
    have hclean : IsClean (Name.normalize name .slider true).toList :=
      (Name.isTidy_of_isStandardized (Name.isStandardized_normalize rfl name true)).2
    have htidy : IsTidy name := heq ▸ isTidy_partName hclean (by decide) rfl
    have hknown : "Slider".toList ∈ knownTypes := by decide
    have hfew := letters_baseFor hknown
      (htidy.2.cleanup_eq (mt String.toList_eq_nil_iff.mp htidy.1))
    rw [hnew] at heq
    rcases letters_partName base with hbare | hmore
    · exact hnot (heq.symm.trans hbare)
    · rw [heq, hlist] at hmore
      omega

end FillArea

namespace Workspace

open Forest

variable {u v w : Workspace} {k : Key} {probe : Probe} {standardize : Option Bool}

/-- A node that is renamed has another name afterwards. -/
lemma name_standardized_ne (hf : w.forest.WellFormed) (hapart : w.forest.PartsApart k)
    (hk : w.forest.IsNode k) (hother : w.newName k ≠ w.name k) :
    (w.standardized k).name k ≠ w.name k := by
  obtain ⟨r, hr⟩ : ∃ r : Renaming, r = ⟨w.forest, w.namerToUse, w.events, none⟩ := ⟨_, rfl⟩
  have hforest : r.forest = w.forest := by rw [hr]
  have hname : r.name k = w.name k := by rw [hr]; rfl
  have hproposed : r.namer.proposedName r.forest k false = w.newName k := by rw [hr]; rfl
  have hdone : w.standardized k = (r.standardize k false).1 := by rw [hr]; rfl
  rw [← hforest] at hf hapart hk
  obtain ⟨hplain, harea⟩ := Renaming.name_standardize_self hk hf hapart false
  rw [hdone]
  by_cases htaken : r.TakenForFillArea k false
  · have hleft : r.leavesAlone k false = false := eq_false_of_ne_true fun h =>
      Renaming.not_takenForFillArea_of_leavesAlone h htaken
    rw [harea htaken, Renaming.proposedName_of_not_leavesAlone hleft, Renaming.canonicalName,
      htaken.1.1, ← hname]
    exact partName_normalize_ne (r.name k)
  · rw [hplain htaken, hproposed]
    exact hother

/-! ### Rejected adds -/

lemma quiet_addAsIs (hrejected : (w.addAsIs k probe).2 = .ok none) :
    w.Quiet (w.addAsIs k probe).1 := by
  have hpath := Quiet.pathOf w k
  revert hrejected
  rw [addAsIs]
  dsimp only
  split
  · exact fun _ => hpath.trans (.report _ _)
  · split
    · exact fun _ => hpath.trans (.rejectDuplicate _ k _)
    · split <;> rintro ⟨⟩

/-- A rejected add leaves the lists and both indices as they were. -/
lemma quiet_add (hrejected : (w.add (some k) probe standardize).2 = .ok none) :
    w.Quiet (w.add (some k) probe standardize).1 := by
  revert hrejected
  rw [add, addNode]
  split
  · exact fun _ => .report w _
  · split
    · exact fun _ => .rejectDuplicate w k _
    · split
      · have hnew := Quiet.standardizeNew w k
        split
        · next h =>
          rw [h] at hnew
          exact fun _ => hnew.trans (.rejectDuplicate _ k _)
        · next h =>
          rw [h] at hnew
          exact fun hrejected => hnew.trans (quiet_addAsIs hrejected)
        · rintro ⟨⟩
      · exact quiet_addAsIs

/-- **Why a node is rejected that has been renamed.** Where the paths that the registry remembers are
those of the scene, the path that the node was to have is malformed, or the node has been taken for the
area around its own fill. -/
theorem malformed_or_taken_of_renamed {s : SceneId} {z : Standardizer} (h : w.Tracks s)
    (hz : w.namer = some z) (hk : k ∈ w.forest.walk s) (hfirst : w.RenamesFirst k true)
    (hrejected : (w.addNode k probe true).2 = .ok none) :
    isCanonicalPath (w.forest.pathUnder k (w.newName k)) = false ∨
      Renaming.TakenForFillArea ⟨w.forest, z, w.events, none⟩ k false := by
  have hnode := h.housed.isNode_of_mem_walk hk
  have hproposed : w.proposed k = w.newName k := by rw [proposed, newName, namerToUse, hz]; rfl
  have hfree : w.registry.hasPath (w.forest.pathUnder k (w.newName k)) = false := by
    rw [← (idle_renamedPath h hk (w.newName k)).2]
    exact hfirst.free
  rw [or_iff_not_imp_right]
  intro hnot
  rw [addNode, if_neg (by rw [hfirst.alive]; exact Bool.false_ne_true), hfirst.new] at hrejected
  rcases hr : w.standardizeNew k with ⟨u, e | path⟩
  · rw [hr] at hrejected
    cases hrejected
  obtain ⟨hmoves, rfl⟩ := standardizeNew_of_free h hz hk (by rw [hproposed]; exact hfirst.other)
    (by rw [hproposed]; exact hfree) (congrArg Prod.snd hr)
  rw [hr] at hmoves
  have hforest : u.forest = (w.standardized k).forest := by
    obtain ⟨⟨-, hpath⟩, -⟩ | ⟨-, cache, hcases⟩ := standardizeNew_cases w k
    · exact absurd (hfirst.free.symm.trans hpath) Bool.false_ne_true
    · exact congrArg (·.1.forest) (hr.symm.trans hcases)
  have hname : (u.forest.node k).name = w.newName k := by
    rw [hforest, standardized, namerToUse, hz, newName, namerToUse, hz]
    exact (Renaming.name_standardize_self (r := ⟨w.forest, z, w.events, none⟩) hnode
      h.housed.toWellFormed (h.orderly.parts.apart h.housed.toWellFormed k) false).1 hnot
  have hwalk : k ∈ u.forest.walk s := by rwa [hmoves.forest.walk_eq]
  have hnew : u.registry.hasKey k = false := by
    rw [hmoves.hasKey]
    exact Registry.hasKey_eq_false.mpr hfirst.new
  have hlast : (u.addAsIs k probe).2 = .ok none := by
    simpa only [if_true, hr] using hrejected
  have hbarred := barred_of_addAsIs (hmoves.tracks h) hwalk hnew hlast
  have hu : u.forest.WellFormed := (hmoves.tracks h).housed.toWellFormed
  rw [Barred, Forest.fullPath_eq_pathUnder hu (hmoves.forest.isNode_iff.mpr hnode), hname,
    hmoves.forest.pathUnder_eq h.housed.toWellFormed] at hbarred
  refine hbarred.resolve_right fun htaken => ?_
  obtain ⟨c, -, hregistry⟩ := hmoves.registry
  rw [hregistry] at htaken
  exact Bool.false_ne_true (hfree.symm.trans htaken)

/-- **A rejected add.** In every reachable state, an add of a node of the scene that is rejected leaves
the lists and both indices as they were; and all names of the scene stay just if the node is rejected
before it is renamed. -/
theorem names_of_rejected_iff (h : w.Reachable) (hk : k ∈ w.forest.walk 0)
    (hrejected : w.add (some k) probe standardize = (v, .ok none)) :
    (v.registry.store = w.registry.store ∧ v.registry.categories = w.registry.categories ∧
        v.registry.byPath = w.registry.byPath ∧ v.registry.byKey = w.registry.byKey) ∧
      ((∀ j ∈ w.forest.walk 0, v.name j = w.name j) ↔
        ¬ w.RenamesFirst k (standardize.getD w.namer.isSome)) := by
  have hquiet := quiet_add (congrArg Prod.snd hrejected)
  rw [hrejected] at hquiet
  refine ⟨⟨hquiet.store, hquiet.categories, hquiet.byPath, hquiet.byKey⟩, ?_⟩
  have hforest : v.forest = (w.addNode k probe (standardize.getD w.namer.isSome)).1.forest := by
    rw [← add, hrejected]
  obtain ⟨hhoused, hapart⟩ := h.regular
  have hnode := hhoused.isNode_of_mem_walk hk
  obtain ⟨hfirst, hnames⟩ | ⟨hfirst, hnames⟩ := forest_addNode w k probe
    (standardize.getD w.namer.isSome)
  · refine iff_of_false (fun hall => ?_) (not_not_intro hfirst)
    refine name_standardized_ne hhoused.toWellFormed (hapart k) hnode hfirst.other ?_
    rw [Renaming.name, ← hnames, ← hforest]
    exact hall k hk
  · refine iff_of_true (fun j _ => ?_) hfirst
    rw [name, hforest, hnames, name]

/-- A button is registered, and another one comes whose canonical name the first one has. -/
def takenName : List Action :=
  [.edit (.create "Play_Button" ([.button].map .new) true), .edit (.addRoot 0 1),
    .add (some 1) .standard none, .edit (.create "Play" ([.button].map .new) true),
    .edit (.addRoot 0 2)]

/-- The path that the second button would get is taken; it is rejected and keeps its name. -/
theorem names_of_rejected_play :
    let w := (start (Forest.empty.edit (.addScene "Main")) (.scene 0) none).run takenName
    let v := (w.add (some 2) .standard (some true)).1
    (w.add (some 2) .standard (some true)).2 = .ok none ∧ ¬ w.RenamesFirst 2 true ∧
      v.registry.byPath = w.registry.byPath ∧ v.name 2 = "Play" := by
  intro w v
  have hreachable : w.Reachable := (Reachable.built "Main" (.scene 0) none).run
    ⟨permits_create _ 0 "Play_Button" _ true, ⟨rfl, by decide⟩, trivial,
      permits_create _ 0 "Play" _ true, ⟨rfl, by decide +kernel⟩, trivial⟩
  have hwalk : 2 ∈ w.forest.walk 0 := by decide +kernel
  have hresult : (w.add (some 2) .standard (some true)).2 = .ok none := by decide +kernel
  have hfirst : ¬ w.RenamesFirst 2 true := fun h => absurd h.free (by decide +kernel)
  obtain ⟨⟨-, -, hpaths, -⟩, hnames⟩ :=
    names_of_rejected_iff (v := v) hreachable hwalk (Prod.ext rfl hresult)
  refine ⟨hresult, hfirst, hpaths, ?_⟩
  rw [hnames.mpr hfirst 2 hwalk]
  decide +kernel

/-- A scene with a button below a root whose name is a space. -/
def blankScene : Value :=
  .object [("scene", .text "S"), ("roots", .list [.object [("name", .text " "),
    ("children", .list [.object [("name", .text "Play"), ("components", .list [.text "Button"])]])]])]

/-- The path of the button is malformed under every name. It is rejected, but has been renamed. -/
theorem renamed_below_blank :
    let w := start (Forest.empty.loadScene blankScene).forest (.scene 0) none
    let v := (w.add (some 2) .standard (some true)).1
    w.Reachable ∧ 2 ∈ w.forest.walk 0 ∧ (w.add (some 2) .standard (some true)).2 = .ok none ∧
      w.name 2 = "Play" ∧ v.name 2 = "Play_Button" := by
  intro w v
  have hload : Forest.empty.loadScene blankScene =
      ⟨(Forest.empty.loadScene blankScene).forest, [], .ok 0⟩ := rfl
  exact ⟨.loaded (.scene 0) none hload, by decide +kernel, by decide +kernel, by decide +kernel,
    by decide +kernel⟩

end Workspace

end SceneBindings
