import SceneBindings.Proofs.Emit.Accounting
import SceneBindings.Proofs.Emit.Agreement

/-!
The order of registration does not show in what is emitted. Every choice among references is made
after sorting, and distinct paths leave sorted references in one order only.
-/

namespace SceneBindings

/-- The reference without its node. -/
def Reference.unbound (r : Reference) : Reference := { r with binding := .never }

/-- What the emitters see of a reference: all but its node, and the type that its accessor fetches. -/
def seenBy (f : Forest) (r : Reference) : Reference × String :=
  (r.unbound, f.accessorTypeOf r.capability (if r.isBound f then r.binding.node? else none))

namespace PanelGroup

/-- The group without the nodes of its references. -/
def unbound (group : PanelGroup) : PanelGroup where
  key := group.key
  panel := group.panel.map Reference.unbound
  elements := group.elements.map fun e => { e with reference := e.reference.unbound }

variable {f f₁ f₂ : Forest} {g₁ g₂ : Registry} {ns ms : List Numbered} {rs₁ rs₂ : List Reference}

/-! ### Buckets -/

section Buckets

variable (hsame : (ns.map fun n => seenBy f₁ n.2).Perm (ms.map fun n => seenBy f₂ n.2))
  (hpaths : (ns.map fun n => n.2.path).Nodup)

include hsame hpaths in
/-- References with distinct paths are seen in one order once they have been sorted. -/
lemma sortBy_seen (by' : Reference → List String) (hby : ∀ r : Reference, by' r.unbound = by' r)
    (hpath : ∀ r s, by' r = by' s → r.path = s.path) :
    (sortBy by' ns).map (fun n => seenBy f₁ n.2) = (sortBy by' ms).map fun n => seenBy f₂ n.2 := by
  have hsorted : ∀ (f : Forest) (ns : List Numbered),
      ((sortBy by' ns).map fun n => seenBy f n.2).Pairwise
        fun a b => keyLe (by' a.1) (by' b.1) = true := by
    intro f ns
    refine List.pairwise_map.mpr ((pairwise_sortBy by' ns).imp fun {n m} h => ?_)
    rw [seenBy, seenBy, hby, hby]
    exact h
  have hperm : ((sortBy by' ns).map fun n => seenBy f₁ n.2).Perm
      ((sortBy by' ms).map fun n => seenBy f₂ n.2) :=
    ((sortBy_perm by' ns).map _).trans (hsame.trans ((sortBy_perm by' ms).map _).symm)
  refine List.Perm.eq_of_pairwise (fun a b ha hb hab hba => ?_) (hsorted f₁ ns) (hsorted f₂ ms) hperm
  have hnodup : (((sortBy by' ns).map fun n => seenBy f₁ n.2).map fun v => v.1.path).Nodup := by
    rw [List.map_map]
    exact ((sortBy_perm by' ns).map _).nodup_iff.mpr hpaths
  exact List.inj_on_of_nodup_map hnodup ha (hperm.mem_iff.mpr hb)
    (hpath _ _ (keyLe_antisymm hab hba))

end Buckets

lemma path_of_panelKey {r s : Reference} (h : panelKey r = panelKey s) : r.path = s.path := by
  simp only [panelKey, List.cons.injEq] at h
  exact h.2.1

lemma path_of_emissionKey {r s : Reference} (h : emissionKey r = emissionKey s) :
    r.path = s.path := by
  simp only [emissionKey, List.cons.injEq] at h
  exact h.2.2.1

/-- What is seen of the references that pass a test depends on what is seen of all of them, if the
test does. -/
lemma filter_seen {p : Reference × String → Bool} {q r : Numbered → Bool}
    (hq : ∀ n ∈ ns, q n = p (seenBy f₁ n.2)) (hr : ∀ n ∈ ms, r n = p (seenBy f₂ n.2))
    (h : ns.map (fun n => seenBy f₁ n.2) = ms.map fun n => seenBy f₂ n.2) :
    (ns.filter q).map (fun n => seenBy f₁ n.2) = (ms.filter r).map fun n => seenBy f₂ n.2 := by
  have hpull : ∀ (f : Forest) (ns : List Numbered) (q : Numbered → Bool),
      (∀ n ∈ ns, q n = p (seenBy f n.2)) →
        (ns.filter q).map (fun n => seenBy f n.2) = (ns.map fun n => seenBy f n.2).filter p := by
    intro f ns q hq
    rw [List.filter_map, List.filter_congr hq]
    rfl
  rw [hpull f₁ ns q hq, hpull f₂ ms r hr, h]

lemma driver?_seen (hsame : (ns.map fun n => seenBy f₁ n.2).Perm (ms.map fun n => seenBy f₂ n.2))
    (hpaths : (ns.map fun n => n.2.path).Nodup) :
    (driver? ns).map (fun n => seenBy f₁ n.2) = (driver? ms).map fun n => seenBy f₂ n.2 := by
  have hsorted := sortBy_seen hsame hpaths emissionKey (fun _ => rfl)
    fun _ _ => path_of_emissionKey
  have hpanels := filter_seen (p := fun v => v.1.capability == .panel)
    (q := fun n => n.2.capability == .panel) (r := fun n => n.2.capability == .panel)
    (fun _ _ => rfl) (fun _ _ => rfl) hsorted
  have hnodup : (((sortBy emissionKey ns).filter fun n => n.2.capability == .panel).map
      fun n => n.2.path).Nodup :=
    (((sortBy_perm emissionKey ns).map _).nodup_iff.mpr hpaths).sublist (List.filter_sublist.map _)
  rw [driver?, driver?, ← List.head?_map, ← List.head?_map,
    sortBy_seen (.of_eq hpanels) hnodup panelKey (fun _ => rfl) fun _ _ => path_of_panelKey]

/-- Among references with distinct paths, the path tells which one drives the bucket. -/
lemma isDriver_iff {n : Numbered} (hids : (ns.map (·.1)).Nodup)
    (hpaths : (ns.map fun n => n.2.path).Nodup) (hn : n ∈ ns) :
    ((driver? ns).map (·.1) != some n.1) =
      ((driver? ns).map (fun m => m.2.path) != some n.2.path) := by
  cases hdriver : driver? ns with
  | none => rfl
  | some d =>
    have hd : d ∈ ns := (driver?_eq_some hdriver).1
    rw [Option.map_some, Option.map_some, Bool.eq_iff_iff, bne_iff_ne, bne_iff_ne, ne_eq, ne_eq,
      Option.some_inj, Option.some_inj, not_iff_not]
    constructor
    · exact fun h => congrArg (fun m : Numbered => m.2.path) (List.inj_on_of_nodup_map hids hd hn h)
    · exact fun h => congrArg Prod.fst (List.inj_on_of_nodup_map hpaths hd hn h)

/-- What buckets have to be like for their groups to be the same. -/
structure SeenAlike (f₁ f₂ : Forest) (ns ms : List Numbered) : Prop where
  same : (ns.map fun n => seenBy f₁ n.2).Perm (ms.map fun n => seenBy f₂ n.2)
  paths : (ns.map fun n => n.2.path).Nodup
  ids : (ns.map (·.1)).Nodup ∧ (ms.map (·.1)).Nodup

lemma askers_seen (h : SeenAlike f₁ f₂ ns ms) :
    (askers ns).map (seenBy f₁) = (askers ms).map (seenBy f₂) := by
  have hpaths : (ms.map fun n => n.2.path).Nodup := by
    have hperm := h.same.map fun v => v.1.path
    rw [List.map_map, List.map_map] at hperm
    exact hperm.nodup_iff.mp h.paths
  have hdriver : (driver? ns).map (fun n => n.2.path) = (driver? ms).map fun n => n.2.path := by
    have hseen := congrArg (Option.map fun v : Reference × String => v.1.path)
      (driver?_seen h.same h.paths)
    rwa [Option.map_map, Option.map_map] at hseen
  have hsorted := sortBy_seen h.same h.paths emissionKey (fun _ => rfl)
    fun _ _ => path_of_emissionKey
  rw [askers, askers, List.map_map, List.map_map]
  refine filter_seen (p := fun v => (driver? ns).map (fun m => m.2.path) != some v.1.path)
    (fun n hn => ?_) (fun n hn => ?_) hsorted
  · exact isDriver_iff h.ids.1 h.paths ((sortBy_perm _ _).mem_iff.mp hn)
  · rw [hdriver]
    exact isDriver_iff h.ids.2 hpaths ((sortBy_perm _ _).mem_iff.mp hn)

/-- Elements are made of what is seen of references. -/
lemma elementsFrom_seen {key : String} {seen : List String}
    (h : rs₁.map (seenBy f₁) = rs₂.map (seenBy f₂)) :
    (elementsFrom f₁ key seen rs₁).1.map (fun e => { e with reference := e.reference.unbound }) =
      (elementsFrom f₂ key seen rs₂).1.map fun e => { e with reference := e.reference.unbound } := by
  induction rs₁ generalizing seen rs₂ with
  | nil =>
    cases rs₂ with
    | nil => rfl
    | cons s rs₂ => cases h
  | cons r rs₁ ih =>
    cases rs₂ with
    | nil => cases h
    | cons s rs₂ =>
      rw [List.map_cons, List.map_cons, List.cons.injEq] at h
      obtain ⟨hrs, hrest⟩ := h
      have hname : r.name = s.name := congrArg (fun v => v.1.name) hrs
      rw [elementsFrom, elementsFrom]
      dsimp only
      rw [hname]
      split
      · exact ih hrest
      · rw [List.map_cons, List.map_cons, ih hrest]
        congr 2
        · exact congrArg Prod.fst hrs
        · exact congrArg Prod.snd hrs

lemma ofBucket_seen (h : SeenAlike f₁ f₂ ns ms) (key : String) :
    (ofBucket f₁ key ns).1.unbound = (ofBucket f₂ key ms).1.unbound := by
  have hpanel : (driver? ns).map (fun n => n.2.unbound) = (driver? ms).map fun n => n.2.unbound := by
    have hseen := congrArg (Option.map Prod.fst) (driver?_seen h.same h.paths)
    rwa [Option.map_map, Option.map_map] at hseen
  rw [ofBucket_eq, ofBucket_eq, unbound, unbound, Option.map_map, Option.map_map]
  congr 1
  exact elementsFrom_seen (askers_seen h)

/-! ### Groups -/

section Groups

variable (hsame : (g₁.references.map (seenBy f₁)).Perm (g₂.references.map (seenBy f₂)))
  (hpaths : (g₁.references.map (·.path)).Nodup)
include hsame

lemma keysOf_seen : keysOf g₁ = keysOf g₂ := by
  have hmem : ∀ (f f' : Forest) {g g' : Registry},
      (g.references.map (seenBy f)).Perm (g'.references.map (seenBy f')) →
        ∀ key ∈ keysOf g, key ∈ keysOf g' := by
    intro f f' g g' hperm key hkey
    obtain ⟨r, hr, hpath, hkey⟩ := mem_keysOf.mp hkey
    obtain ⟨s, hs, hsr⟩ := List.mem_map.mp (hperm.mem_iff.mp (List.mem_map_of_mem hr))
    have hname : s.name = r.name := congrArg (fun v => v.1.name) hsr
    have hsame : s.path = r.path := congrArg (fun v => v.1.path) hsr
    exact mem_keysOf.mpr ⟨s, hs, hsame ▸ hpath, by rw [keyOf, hname, ← hkey, keyOf]⟩
  refine SignatureDiff.ascending_eq (SignatureDiff.ascending_sorted _)
    (SignatureDiff.ascending_sorted _) fun key => ?_
  exact ⟨hmem f₁ f₂ hsame key, hmem f₂ f₁ hsame.symm key⟩

include hpaths

lemma seenAlike_bucketOf (key : String) :
    SeenAlike f₁ f₂ (bucketOf g₁ key) (bucketOf g₂ key) := by
  have hbucket : ∀ (f : Forest) (g : Registry), (bucketOf g key).map (fun n => seenBy f n.2) =
      (g.references.map (seenBy f)).filter fun v => isCanonicalPath v.1.path && keyOf v.1 == key := by
    intro f g
    rw [List.filter_map, ← Function.comp_def (seenBy f) (fun n : Numbered => n.2), ← List.map_map,
      map_bucketOf, members]
    rfl
  have hids : ∀ g : Registry, (g.references.map (·.path)).Nodup → g.ids.Nodup := by
    intro g hg
    rw [Registry.references, List.map_map] at hg
    exact .of_map _ hg
  have hpaths₂ : (g₂.references.map (·.path)).Nodup := by
    have hperm := hsame.map fun v => v.1.path
    rw [List.map_map, List.map_map] at hperm
    exact hperm.nodup_iff.mp hpaths
  refine ⟨?_, ?_, nodup_bucketOf (hids g₁ hpaths) key, nodup_bucketOf (hids g₂ hpaths₂) key⟩
  · rw [hbucket, hbucket]
    exact hsame.filter _
  · have hmembers : (bucketOf g₁ key).map (fun n => n.2.path) =
        (members g₁.references key).map (·.path) := by
      rw [← map_bucketOf, List.map_map]
      rfl
    rw [hmembers]
    exact hpaths.sublist (List.filter_sublist.map _)

/-- The groups of registries that hold the same references differ in nodes only. -/
theorem build_seen : (build f₁ g₁).1.map unbound = (build f₂ g₂).1.map unbound := by
  rw [build_eq, build_eq, List.map_map, List.map_map, keysOf_seen hsame]
  exact List.map_congr_left fun key _ => ofBucket_seen (seenAlike_bucketOf hsame hpaths key) key

end Groups

end PanelGroup

/-! ### Units -/

section Units

open PanelGroup Emit

lemma elementLines_unbound (gap : Bool) (role : Option Capability) (es : List GroupElement) :
    elementLines gap role (es.map fun e => { e with reference := e.reference.unbound }) =
      elementLines gap role es := by
  induction es generalizing gap role with
  | nil => rfl
  | cons e es ih =>
    rw [List.map_cons, elementLines, elementLines, ih]
    rfl

lemma groupLines_unbound (group : PanelGroup) : groupLines group.unbound = groupLines group := by
  have hbody : groupBody group.unbound = groupBody group := by
    obtain ⟨key, panel, elements⟩ := group
    cases panel with
    | none => exact elementLines_unbound false none elements
    | some p => exact congrArg (panelLines p ++ ·) (elementLines_unbound true none elements)
  rw [groupLines, groupLines, hbody]
  rfl

/-- A library does not show nodes. -/
lemma libraryText_unbound (scene : String) (groups : List PanelGroup) (stamp : Option String) :
    libraryText scene (groups.map PanelGroup.unbound) stamp = libraryText scene groups stamp := by
  have htypes : fetchedTypes (groups.map PanelGroup.unbound) = fetchedTypes groups := by
    have haccessors : ((groups.map PanelGroup.unbound).flatMap fun g => g.elements.map (·.accessor)) =
        groups.flatMap fun g => g.elements.map (·.accessor) := by
      rw [List.flatMap_map]
      exact List.flatMap_congr fun g _ => List.map_map
    rw [fetchedTypes, haccessors, fetchedTypes]
  have hnode : fetchesNode (groups.map PanelGroup.unbound) = fetchesNode groups := by
    rw [fetchesNode, fetchesNode, List.any_map]
    refine congrArg groups.any (funext fun g => ?_)
    rw [Function.comp_apply, PanelGroup.unbound, Option.isSome_map, List.any_map]
    rfl
  have hlines : (groups.map PanelGroup.unbound).flatMap groupLines = groups.flatMap groupLines := by
    rw [List.flatMap_map]
    exact List.flatMap_congr fun g _ => groupLines_unbound g
  rw [libraryText, libraryImports, htypes, hnode, hlines, libraryText, libraryImports]

/-- Hooks do not depend on nodes. -/
lemma collect_unbound (groups : List PanelGroup) :
    Signature.collect (groups.map PanelGroup.unbound) = Signature.collect groups := by
  have hall : ((groups.map PanelGroup.unbound).flatMap fun g => g.elements.filterMap fun e =>
      (Signature.ofElement? g e).map fun s => (s, e.reference.path)) =
        groups.flatMap fun g => g.elements.filterMap fun e =>
          (Signature.ofElement? g e).map fun s => (s, e.reference.path) := by
    rw [List.flatMap_map]
    exact List.flatMap_congr fun g _ => List.filterMap_map
  rw [Signature.collect, hall, Signature.collect]

/-- A library is made of what is seen of the references. -/
lemma libraryOf_seen {f₁ f₂ : Forest} {g₁ g₂ : Registry}
    (hsame : (g₁.references.map (seenBy f₁)).Perm (g₂.references.map (seenBy f₂)))
    (hpaths : (g₁.references.map (·.path)).Nodup) (scene : String) (date : Option Timestamp) :
    libraryOf f₁ g₁ scene date = libraryOf f₂ g₂ scene date := by
  rw [libraryOf, ← libraryText_unbound, build_seen hsame hpaths, libraryText_unbound, libraryOf]

/-- **Emission does not depend on the order of registration.** Two registries that hold the same
references, under paths of their own, are emitted as the same library, hooks and machine unit. -/
theorem emission_orderless {f₁ f₂ : Forest} {g₁ g₂ : Registry}
    (hsame : (g₁.references.map (seenBy f₁)).Perm (g₂.references.map (seenBy f₂)))
    (hpaths : (g₁.references.map (·.path)).Nodup) :
    (∀ scene date, libraryOf f₁ g₁ scene date = libraryOf f₂ g₂ scene date) ∧
      hooksOf f₁ g₁ = hooksOf f₂ g₂ ∧
        ∀ scene className library earlier date,
          machineUnitOf f₁ g₁ scene className library earlier date =
            machineUnitOf f₂ g₂ scene className library earlier date := by
  have hhooks : hooksOf f₁ g₁ = hooksOf f₂ g₂ := by
    rw [hooksOf, ← collect_unbound, build_seen hsame hpaths, collect_unbound, hooksOf]
  refine ⟨libraryOf_seen hsame hpaths, hhooks, fun scene className library earlier date => ?_⟩
  rw [machineUnitOf, hhooks, machineUnitOf]

/-- A slider and a panel with two buttons, the buttons of one name. -/
def listedReferences : List Reference :=
  [⟨"Main_Panel", "Menu/Main_Panel", .panel, .never⟩,
    ⟨"Main_Panel_Play_Button", "Menu/Main_Panel/Play", .button, .never⟩,
    ⟨"Main_Panel_Play_Button", "Menu/Main_Panel/Again", .button, .never⟩,
    ⟨"Volume_Slider", "Menu/Volume_Slider", .slider, .never⟩]

/-- The references, listed in a given order under given categories. -/
def listedAs (categories : List Category) : Registry :=
  { Registry.blank .empty with store := listedReferences, categories }

/-- The buttons and the panel change places, and so do their categories. -/
theorem emission_orderless_of_buttons :
    let g₁ := listedAs [⟨"Panel", [0]⟩, ⟨"Button", [1, 2]⟩, ⟨"Slider", [3]⟩]
    let g₂ := listedAs [⟨"Slider", [3]⟩, ⟨"Button", [2, 1]⟩, ⟨"Panel", [0]⟩]
    (g₁.references.map (seenBy .empty)).Perm (g₂.references.map (seenBy .empty)) ∧
      (g₁.references.map (·.path)).Nodup ∧ g₁.references ≠ g₂.references ∧
        (∀ scene date, libraryOf .empty g₁ scene date = libraryOf .empty g₂ scene date) ∧
          hooksOf .empty g₁ = hooksOf .empty g₂ := by
  intro g₁ g₂
  have hsame : (g₁.references.map (seenBy .empty)).Perm (g₂.references.map (seenBy .empty)) := by
    decide +kernel
  have hpaths : (g₁.references.map (·.path)).Nodup := by decide +kernel
  obtain ⟨hlibrary, hhooks, -⟩ := emission_orderless hsame hpaths
  exact ⟨hsame, hpaths, by decide +kernel, hlibrary, hhooks⟩

end Units

end SceneBindings
