import SceneBindings.Proofs.Emit.Ordering
import SceneBindings.Proofs.Registry.Outcomes
import SceneBindings.Proofs.Registry.Storable

/-!
Storing a registry and binding it again. The nodes of the references are not stored; where names tell
the nodes of a scene apart the paths lead back to them. What comes back is what was stored, but for the
name of the scene: a registry that never followed a scene has none, and gets it when it is bound.
-/

namespace SceneBindings

open Forest

namespace Registry

variable {f : Forest} {s : SceneId} {g : Registry} {i : RefId} {k : Key}

/-- The references under the names of their categories, all in order. -/
def listing (g : Registry) : List (String × List Reference) :=
  g.categories.map fun c => (c.name, c.members.map g.reference)

/-- A registry over a scene: each reference is bound to a live node of the scene and has the path of that
node, which no other reference has. -/
structure Over (g : Registry) (f : Forest) (s : SceneId) : Prop where
  placed : ∀ i ∈ g.ids, ∃ k ∈ f.walk s, (g.reference i).binding = .bound k ∧ f.IsAlive k ∧
    (g.reference i).path = f.fullPath k
  distinct : (g.references.map (·.path)).Nodup

/-- Categories and references have names, as stored ones must. A reference may have lost its name: it takes
over the one that its node has at the time. -/
structure Named (g : Registry) : Prop where
  categories : ∀ c ∈ g.categories, c.name ≠ ""
  references : ∀ i ∈ g.ids, (g.reference i).name ≠ ""

/-- A stored reference with the live node that its path leads to. -/
def boundAt (f : Forest) (s : SceneId) (r : StoredReference) : Reference :=
  ⟨r.name, r.path, r.capability, (f.liveAt? s r.path).elim .never .bound⟩

/-- Where paths lead to the nodes of references, what is stored tells the references. -/
lemma listing_eq (h : ∀ i ∈ g.ids, ∃ k, f.liveAt? s (g.reference i).path = some k ∧
      (g.reference i).binding = .bound k) :
    g.listing = g.stored.categories.map fun c => (c.name, c.references.map (boundAt f s)) := by
  rw [listing, stored, List.map_map]
  refine List.map_congr_left fun c hc => ?_
  rw [Function.comp_apply, Prod.mk.injEq, List.map_map]
  refine ⟨rfl, List.map_congr_left fun i hi => ?_⟩
  obtain ⟨k, hk, hb⟩ := h i (List.mem_flatMap.mpr ⟨c, hc, hi⟩)
  rw [Function.comp_apply, boundAt, hk]
  exact (congrArg (Reference.mk _ _ _) hb)

lemma references_eq_listing (g : Registry) : g.references = g.listing.flatMap (·.2) := by
  simp only [references, ids, listing, List.map_flatMap, List.flatMap_map]

lemma size_eq_listing (g : Registry) : g.size = (g.listing.flatMap (·.2)).length := by
  rw [← references_eq_listing, references, List.length_map, size]

namespace Over

variable (h : g.Over f s) (hf : f.WellFormed) (hroots : ∀ r ∈ f.roots s, (f.node r).parent = none)
  (hnames : f.Distinguished s)
include h hf hroots hnames

/-- Paths lead back to the nodes. -/
lemma liveAt? (hi : i ∈ g.ids) : ∃ k, f.liveAt? s (g.reference i).path = some k ∧
    (g.reference i).binding = .bound k := by
  obtain ⟨k, hk, hb, ha, hpath⟩ := h.placed i hi
  refine ⟨k, liveAt?_eq_some.mpr ⟨?_, ha⟩, hb⟩
  rw [hpath]
  exact (hnames.findByPath?_fullPath hf hroots hk).2

/-- The paths of nodes of the scene can be stored, so only a missing name stands in the way. -/
lemma stored_valid_iff : g.stored.Valid ↔ g.Named := by
  rw [Registry.stored_valid_iff]
  refine ⟨fun hg => ⟨hg.categories, fun i hi => (hg.references i hi).name⟩, fun hg =>
    ⟨hg.categories, fun i hi => ⟨hg.references i hi, ?_⟩⟩⟩
  obtain ⟨k, hk, -, -, hpath⟩ := h.placed i hi
  rw [hpath]
  exact (hnames.findByPath?_fullPath hf hroots hk).1

end Over

end Registry

namespace Workspace

open Registry Emit

variable {f : Forest} {s : SceneId} {g : Registry}

/-- Binding gives the name of the scene to a registry that has none. -/
lemma sceneName_bindScene (w : Workspace) (s : SceneId) : (w.bindScene s).1.registry.sceneName =
    if w.registry.sceneName = "" then (w.forest.scene s).name else w.registry.sceneName := by
  obtain ⟨store, byPath, byKey, said, -, heq⟩ := bindScene_frame w s
  rw [heq]
  simp [resetPanels, attach]

/-- What a registry is after it was stored and bound again: nothing of it has changed, but that it has
the name of its scene. -/
structure Reloaded (f : Forest) (s : SceneId) (g : Registry) (events : List Event) (w : Workspace)
    (n : Nat) : Prop where
  count : n = g.size
  sceneName : w.registry.sceneName =
    if g.sceneName = "" then (f.scene s).name else g.sceneName
  listing : w.registry.listing = g.listing
  forest : w.forest = f
  silent : w.events = events
  library : ∀ scene date,
    libraryOf w.forest w.registry scene date = libraryOf f g scene date

section Rebound

variable (hf : f.WellFormed) (hroots : ∀ r ∈ f.roots s, (f.node r).parent = none)
  (hnames : f.Distinguished s) (hg : g.Over f s) {w v : Workspace} {n : Nat}
  (hout : Outcome s w v n) (hforest : v.forest = f)
  (hkept : v.registry.stored.categories = g.stored.categories)

include hkept in
lemma paths_kept : v.registry.references.map (·.path) = g.references.map (·.path) := by
  rw [← paths_stored, ← paths_stored, RegistryDocument.paths, hkept, RegistryDocument.paths]

include hf hroots hnames hg hout hforest hkept

/-- No path leads nowhere, and no path is repeated, so none is refused. -/
lemma isBound_kept : ∀ i ∈ v.registry.ids, (v.registry.reference i).isBound v.forest = true := by
  have hpaths := paths_kept hkept
  intro i hi
  refine (hout.first i hi).mpr ⟨?_, firstAt?_of_alone hi fun j hj hji => ?_⟩
  · have hpath : (v.registry.reference i).path ∈ g.references.map (·.path) :=
      hpaths ▸ List.mem_map_of_mem (List.mem_map_of_mem hi)
    rw [references, List.map_map] at hpath
    obtain ⟨j, hj, hji⟩ := List.mem_map.mp hpath
    obtain ⟨k, hk, -⟩ := hg.liveAt? hf hroots hnames hj
    rw [hforest, ← hji]
    exact Option.isSome_iff_exists.mpr ⟨k, hk⟩
  · have hdistinct : (v.registry.references.map (·.path)).Nodup := hpaths ▸ hg.distinct
    rw [references, List.map_map] at hdistinct
    exact List.inj_on_of_nodup_map hdistinct hj hi hji

lemma listing_kept : v.registry.listing = g.listing := by
  rw [listing_eq (f := f) (s := s) (g := g) fun i hi => hg.liveAt? hf hroots hnames hi, ← hkept]
  refine listing_eq fun i hi => ?_
  obtain ⟨k, hk, -⟩ :=
    Reference.isBound_iff.mp (isBound_kept hf hroots hnames hg hout hforest hkept i hi)
  obtain ⟨halive, hwalk, hpath⟩ := hout.located i hi k hk
  rw [hforest] at halive hwalk hpath
  rw [← hpath]
  exact ⟨k, liveAt?_eq_some.mpr ⟨(hnames.findByPath?_fullPath hf hroots hwalk).2, halive⟩, hk⟩

end Rebound

/-- A registry that can be stored is bound to its scene as it was. -/
lemma reloaded_of_valid (hf : f.WellFormed) (hroots : ∀ r ∈ f.roots s, (f.node r).parent = none)
    (hnames : f.Distinguished s) (hg : g.Over f s) (hvalid : g.stored.Valid)
    (namer : Option Standardizer) (events : List Event) :
    Reloaded f s g events (bindScene ⟨f, .ofDocument f g.stored, namer, events⟩ s).1
      (bindScene ⟨f, .ofDocument f g.stored, namer, events⟩ s).2 := by
  obtain ⟨hstored, -, -, hname⟩ := ofDocument_fields f g.stored
  obtain ⟨w, hw⟩ : ∃ w : Workspace, w = ⟨f, .ofDocument f g.stored, namer, events⟩ := ⟨_, rfl⟩
  have hs : Sound w.forest w.registry := hw ▸ sound_start f (.document g.stored) none
  have hcanonical : ∀ i ∈ w.registry.ids, isCanonicalPath (w.registry.reference i).path = true := by
    rw [hw]
    intro i hi
    refine hvalid.path _ ?_
    rw [← paths_ofDocument f g.stored]
    exact List.mem_map_of_mem (List.mem_map_of_mem hi)
  have hout := outcome_bindScene (s := s) hs (by rwa [hw]) (by rwa [hw]) hcanonical
  rw [← hw]
  obtain ⟨v, hv⟩ : ∃ v, v = (w.bindScene s).1 := ⟨_, rfl⟩
  have hforest : v.forest = f := by rw [hv, hout.forest, hw]
  have hkept : v.registry.stored.categories = g.stored.categories := by
    obtain ⟨-, all, -, hr⟩ := rebuilt_bindScene s hs.nodup hs.stored
    rw [hv, hr.stored_eq, hw, hstored]
  have hsceneName : v.registry.sceneName =
      if g.sceneName = "" then (f.scene s).name else g.sceneName := by
    rw [hv, sceneName_bindScene, hw]
    dsimp only
    rw [hname]
    rfl
  rw [← hv] at hout ⊢
  have hbound := isBound_kept hf hroots hnames hg hout hforest hkept
  have hlisting := listing_kept hf hroots hnames hg hout hforest hkept
  constructor
  case count =>
    rw [hout.count, List.filter_eq_self.mpr hbound, ← size, size_eq_listing, hlisting,
      size_eq_listing]
  case sceneName => exact hsceneName
  case listing => exact hlisting
  case forest => exact hforest
  case silent =>
    have hnone : (v.registry.ids.filter fun i => !(v.registry.reference i).isBound v.forest) = [] :=
      List.filter_eq_nil_iff.mpr fun i hi => by simp [hbound i hi]
    rw [hout.said, hnone, hw]
    exact List.append_nil _
  case library =>
    refine libraryOf_seen ?_ (paths_kept hkept ▸ hg.distinct)
    rw [references_eq_listing, hlisting, ← references_eq_listing, hforest]

/-- **A registry over a scene can be stored just if its categories and references have names. Bound to the
scene again it is as it was, and if it had no scene name it has that of the scene.** -/
theorem reloaded_iff_named (hf : f.WellFormed)
    (hroots : ∀ r ∈ f.roots s, (f.node r).parent = none) (hnames : f.Distinguished s)
    (hg : g.Over f s) (namer : Option Standardizer) (events : List Event) :
    (∃ d, g.toDocument = .ok d ∧
      Reloaded f s g events (bindScene ⟨f, .ofDocument f d, namer, events⟩ s).1
        (bindScene ⟨f, .ofDocument f d, namer, events⟩ s).2) ↔ g.Named := by
  rw [← hg.stored_valid_iff hf hroots hnames]
  constructor
  · rintro ⟨d, hd, -⟩
    exact (toDocument_eq_ok.mp hd).1
  · intro hvalid
    exact ⟨g.stored, toDocument_eq_ok.mpr ⟨hvalid, rfl⟩,
      reloaded_of_valid hf hroots hnames hg hvalid namer events⟩

/-- A panel with a button and a slider, in which a name stands twice, at different places. -/
def mainMenu : Forest :=
  [.create "Main_Panel" [Component.new .image] true, .create "Play" [Component.new .button] true,
    .create "Sound" [Component.new .image] true, .create "Play" [Component.new .slider] true,
    .setParent 4 (some 3), .setParent 3 (some 1), .setParent 2 (some 1),
    .addRoot 0 1].foldl Forest.edit (Forest.empty.addScene "Menu").1

lemma housed_mainMenu : mainMenu.Housed 0 := by
  refine (housed_addScene_empty "Menu").edits ?_
  exact ⟨trivial, trivial, trivial, trivial,
    allows_setParent (by decide) (by decide) (by decide) (by decide),
    allows_setParent (by decide) (by decide) (by decide) (by decide),
    allows_setParent (by decide) (by decide) (by decide) (by decide), ⟨rfl, by decide⟩, trivial⟩

lemma distinguished_mainMenu : mainMenu.Distinguished 0 :=
  ⟨by decide +kernel, by decide +kernel, by decide +kernel, by decide +kernel⟩

/-- Registered and stored, the menu is bound again. -/
theorem reloaded_of_mainMenu :
    let g := ((start mainMenu (.scene 0) none).run
      [.addMany .standard [some 1, some 2, some 4]]).registry
    (mainMenu.WellFormed ∧ (∀ r ∈ mainMenu.roots 0, (mainMenu.node r).parent = none) ∧
        mainMenu.Distinguished 0 ∧ g.Over mainMenu 0 ∧ g.Named ∧ g.size = 3) ∧
      ∃ d, g.toDocument = .ok d ∧
        Reloaded mainMenu 0 g [] (bindScene ⟨mainMenu, .ofDocument mainMenu d, none, []⟩ 0).1
          (bindScene ⟨mainMenu, .ofDocument mainMenu d, none, []⟩ 0).2 := by
  intro g
  have hf := housed_mainMenu
  have hnames := distinguished_mainMenu
  have hg : g.Over mainMenu 0 := ⟨by decide +kernel, by decide +kernel⟩
  have hnamed : g.Named := ⟨by decide +kernel, by decide +kernel⟩
  exact ⟨⟨hf.toWellFormed, hf.parentless, hnames, hg, hnamed, by decide +kernel⟩,
    (reloaded_iff_named hf.toWellFormed hf.parentless hnames hg none []).mpr hnamed⟩

/-- The menu in a registry that follows no scene. -/
def unattached : Registry :=
  ((start mainMenu .blank none).run [.addMany .standard [some 1, some 2, some 4]]).registry

/-- A root and its child, and a node outside the scene. -/
def menuBesideShelf : Forest :=
  [.create "Play" [Component.new .button] true, .create "Icon" [Component.new .image] true,
    .create "Shelf" [] true, .setParent 2 (some 1), .addRoot 0 1].foldl Forest.edit
      (Forest.empty.addScene "Menu").1

/-- What becomes of the root: its child is given a new name, and it is away from the scene and has no name
for some time. -/
def awayAndBack : List Edit :=
  [.rename 1 "Good", .rename 2 "Icon_Image", .setParent 1 (some 3), .rename 1 "", .rename 1 "Good",
    .addRoot 0 1]

/-- The registry that follows the root while it has no name. The path from before, which it remembers when
the child is entered, becomes the right one again; the name does not. -/
def followedAway : Registry :=
  ((start menuBesideShelf (.scene 0) none).run
    [.add (some 1) .standard (some false), .edit (.rename 1 "Good"),
      .add (some 2) .standard (some true), .edit (.setParent 1 (some 3)), .edit (.rename 1 ""),
      .refreshPaths, .edit (.rename 1 "Good"), .edit (.addRoot 0 1)]).registry

lemma housed_awayAndBack : (awayAndBack.foldl Forest.edit menuBesideShelf).Housed 0 := by
  have hmenu : menuBesideShelf.Housed 0 := by
    refine (housed_addScene_empty "Menu").edits ?_
    exact ⟨trivial, trivial, trivial,
      allows_setParent (by decide) (by decide) (by decide) (by decide), ⟨rfl, by decide⟩, trivial⟩
  refine hmenu.edits ?_
  exact ⟨(by decide +kernel : IsNode _ 1), (by decide +kernel : IsNode _ 2),
    allows_setParent (by decide +kernel) (by decide +kernel) (by decide +kernel)
      (by decide +kernel), (by decide +kernel : IsNode _ 1), (by decide +kernel : IsNode _ 1),
    ⟨rfl, by decide +kernel⟩, trivial⟩

/-- **Not every registry over a scene comes back as it was.** One that follows no scene has no scene name
and gets one; and a reference may have lost its name while its path is that of its node, so that the
registry cannot be stored. -/
theorem not_reloaded_same :
    let f := awayAndBack.foldl Forest.edit menuBesideShelf
    ((mainMenu.WellFormed ∧ (∀ r ∈ mainMenu.roots 0, (mainMenu.node r).parent = none) ∧
          mainMenu.Distinguished 0 ∧ unattached.Over mainMenu 0) ∧
        ∃ d, unattached.toDocument = .ok d ∧
          (bindScene ⟨mainMenu, .ofDocument mainMenu d, none, []⟩ 0).1.registry.sceneName ≠
            unattached.sceneName) ∧
      (f.WellFormed ∧ (∀ r ∈ f.roots 0, (f.node r).parent = none) ∧ f.Distinguished 0 ∧
          followedAway.Over f 0) ∧
        ∀ d, followedAway.toDocument ≠ .ok d := by
  intro f
  have hmenu : unattached.Over mainMenu 0 := ⟨by decide +kernel, by decide +kernel⟩
  have hvalid : unattached.stored.Valid :=
    (hmenu.stored_valid_iff housed_mainMenu.toWellFormed housed_mainMenu.parentless
      distinguished_mainMenu).mpr ⟨by decide +kernel, by decide +kernel⟩
  have hf : f.Housed 0 := housed_awayAndBack
  have hnames : f.Distinguished 0 :=
    ⟨by decide +kernel, by decide +kernel, by decide +kernel, by decide +kernel⟩
  refine ⟨⟨⟨housed_mainMenu.toWellFormed, housed_mainMenu.parentless, distinguished_mainMenu, hmenu⟩,
      unattached.stored, toDocument_eq_ok.mpr ⟨hvalid, rfl⟩, ?_⟩,
    ⟨hf.toWellFormed, hf.parentless, hnames, by decide +kernel, by decide +kernel⟩, fun d hd => ?_⟩
  · rw [sceneName_bindScene]
    decide +kernel
  · have hlost := stored_valid_iff.mp (toDocument_eq_ok.mp hd).1
    exact (hlost.references 0 (by decide +kernel)).name (by decide +kernel)

end Workspace

end SceneBindings
