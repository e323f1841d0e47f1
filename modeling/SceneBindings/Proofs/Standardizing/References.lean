import SceneBindings.Proofs.Scene.Resaving
import SceneBindings.Proofs.Standardizing.Stopping
import SceneBindings.Validation.Lax

/-!
The parts of components in a standardized scene that is saved and loaded again. A part is stored as the
path of names that leads to it. Standardizing can give one name to several siblings, and a path
follows only the first of them.
-/

namespace SceneBindings

open Forest

namespace Forest

variable {f g h : Forest} {k : Key} {c : Component}

/-- The components of the second forest have the kinds and the parts that they have in the first. -/
def SameParts (g h : Forest) : Prop :=
  ∀ k, List.Forall₂ (fun c d => d.kind = c.kind ∧ ∀ part, d.part? part = c.part? part)
    (g.node k).components (h.node k).components

/-- On the way from a node to a part of one of its components, every node is the first of its
siblings that have its name. -/
def Traceable (g : Forest) : Prop :=
  ∀ k, ∀ c ∈ (g.node k).components, ∀ part d, c.part? part = some d →
    ∀ a, g.Below k a → g.Within a d → g.Foremost a

lemma components_node (f : Forest) (k : Key) :
    (f.node k).components = ([] :: f.nodes.map (·.components)).getD k [] := by
  cases k with
  | zero => rfl
  | succ i =>
    rw [node, node?, List.getD_cons_succ, List.getD_eq_getElem?_getD, List.getElem?_map]
    cases f.nodes[i]? <;> rfl

lemma SameParts.of_eq (heq : h.nodes.map (·.components) = g.nodes.map (·.components)) :
    SameParts g h := by
  intro k
  rw [components_node h, heq, ← components_node g]
  exact List.forall₂_same.mpr fun c _ => ⟨rfl, fun _ => rfl⟩

lemma forall₂_iff_forall {α β : Type} {R S : α → β → Prop} {P : α → Prop} {xs : List α}
    {ys : List β} (h : List.Forall₂ R xs ys) (hiff : ∀ x ∈ xs, ∀ y, R x y → (S x y ↔ P x)) :
    List.Forall₂ S xs ys ↔ ∀ x ∈ xs, P x := by
  induction h with
  | nil => exact iff_of_true .nil (List.forall_mem_nil P)
  | cons hxy _ ih =>
    rw [List.forall_mem_cons] at hiff
    rw [List.forall₂_cons, List.forall_mem_cons, ih hiff.2, hiff.1 _ hxy]

section Orderly

variable (hg : Renaming.Orderly g)

include hg

/-- The path that is written for a part leads to it just if the way is through first siblings. -/
lemma partPath?_of_orderly (hc : c ∈ (g.node k).components) {part : String} {d : Key}
    (hd : c.part? part = some d) : ∃ path, path ≠ "" ∧ g.relativePath k d = .ok path ∧
      g.partPath? k c part = some path ∧
        (g.find? k path = some d ↔ ∀ a, g.Below k a → g.Within a d → g.Foremost a) := by
  obtain ⟨path, hne, hpath, hfind⟩ := find?_relativePath hg.wellFormed (isNode_of_mem_components hc)
    (hg.parts k c hc part d hd) hg.names
  refine ⟨path, hne, hpath, ?_, hfind⟩
  rw [partPath?, hd, Option.bind_some, hpath]
  rfl

lemma writable_iff (hc : c ∈ (g.node k).components) : g.Writable k c ↔ c.Listable ∧
    c.isDisabled "to_dict" = false ∧ c.isDisabled "state" = false := by
  refine ⟨fun h => ⟨h.listable, h.enabled⟩, fun h => ⟨fun part _ d hd => ?_, h.1, h.2⟩⟩
  obtain ⟨path, -, hpath, -⟩ := partPath?_of_orderly hg hc hd
  exact ⟨path, hpath⟩

/-- Parts that are read again from their paths are the old ones just if all of these can be traced. -/
lemma sameParts_iff
    (hreread : ∀ k, List.Forall₂ (g.Reread k) (g.node k).components (h.node k).components) :
    SameParts g h ↔ Traceable g := by
  refine forall_congr' fun k => forall₂_iff_forall (hreread k) fun c hc d hd => ?_
  rw [and_iff_right hd.kind]
  refine forall_congr' fun part => ?_
  rw [hd.parts]
  cases hgiven : c.part? part with
  | none =>
    rw [partPath?, hgiven]
    exact iff_of_true rfl (by rintro _ ⟨⟩)
  | some t =>
    obtain ⟨path, -, -, hpath, hfind⟩ := partPath?_of_orderly hg hc hgiven
    rw [hpath, Option.bind_some, hfind]
    exact ⟨fun hway _ ht => Option.some.inj ht ▸ hway, fun hway => hway t rfl⟩

/-- The path of a part that can be traced leads somewhere. -/
lemma Traceable.find?_isSome (h : Traceable g) (hc : c ∈ (g.node k).components) {part path : String}
    (hpath : g.partPath? k c part = some path) : (g.find? k path).isSome = true := by
  obtain ⟨t, ht, -⟩ := Option.bind_eq_some_iff.mp hpath
  obtain ⟨path', -, -, hpath', hfind⟩ := partPath?_of_orderly hg hc ht
  obtain rfl : path = path' := Option.some.inj (hpath.symm.trans hpath')
  exact Option.isSome_of_eq_some (hfind.mpr (h k c hc part t ht))

end Orderly

/-- A scene that was loaded and standardized is loaded again from its saved form: the same tree, with
the parts at the paths that were written. -/
lemma reread_of_writeScene [Validator] {v w : Value} {events : List Event} {s : SceneId}
    (hload : Forest.empty.loadScene v = ⟨f, events, .ok s⟩) (hgenuine : GenuineScene v)
    (horderly : Renaming.Orderly g) (hrenamed : Renamed f g) (hw : g.writeScene s = .ok w) :
    ∃ h found, Forest.empty.loadScene w = ⟨h, found, .ok s⟩ ∧ Alike g h ∧
      (∀ k, List.Forall₂ (g.Reread k) (g.node k).components (h.node k).components) ∧
        (Traceable g → found = []) := by
  obtain ⟨rfl, fields, spec, hfields, hspec, hcarries⟩ := carries_loadScene hload
  have hplanted := hrenamed.planted hcarries.planted
  have hholds := holds_loadScene hload hfields hspec
  have hordinary : g.Ordinary := (ordinary_of_loadScene hload hgenuine).renamed hrenamed
  have hscene : (g.scene 0).name ≠ "" := by
    rw [scene, scene?, hrenamed.scenes]
    exact (hcarries.names_readable hspec).1
  obtain ⟨fields', spec', hfields', hspec', -, -, -, -, -, hentries⟩ :=
    readScene_of_writeScene hplanted hordinary hscene horderly.names hw
  obtain ⟨h, found, hload', halike⟩ :=
    alike_of_writeScene hplanted hordinary hscene horderly.names hw
  have hrecorded := recorded_getD hentries
  refine ⟨h, found, hload', halike, fun k => ?_, fun htraceable => ?_⟩
  · cases k with
    | zero => exact .nil
    | succ i =>
      have hkey : i.succ = 1 + i := Nat.add_comm i 1
      rw [hkey]
      refine reread_of_recorded hordinary (fun c hc part d hd => ?_)
        (holds_loadScene hload' hfields' hspec') halike.find?_eq (hrecorded i)
      obtain ⟨path, hne, -, hpath, -⟩ := partPath?_of_orderly horderly hc hd
      rw [hrenamed.components] at hc
      rw [hpath]
      have hentry := genuine_of_mem_described (hgenuine fields spec hfields hspec)
      exact ⟨(hholds.found hentry hc hd).1, fun hempty => hne (Option.some.inj hempty)⟩
  · obtain ⟨-, fields'', spec'', hfields'', hspec'', b, -, hresolve⟩ := raises_loadScene hload'
    obtain rfl : fields' = fields'' := Except.ok.inj (hfields'.symm.trans hfields'')
    obtain rfl : spec' = spec'' := Checked.ok.inj (hspec'.symm.trans hspec'')
    have hfind : b.find? = g.find? := (components_resolve hresolve).1.symm.trans halike.find?_eq
    refine events_resolve (fun p hp => ?_) hresolve
    simp only [lead?, hfind]
    exact found_of_recorded hordinary hrecorded
      (fun k c hc part path hpath => htraceable.find?_isSome horderly hc hpath) hp

end Forest

namespace Renaming

variable {r : Renaming} {s : SceneId}

/-- **Parts after standardizing.** Where components are what their kinds say, standardizing does not
stop, and a standardized scene can be saved if it could be saved before. What is loaded from its saved
form is the same tree; all parts are found, and are the nodes at the old places, just if on the way to
each of them every node is the first of its siblings that have its name. -/
theorem parts_of_standardized_iff [Validator] {v : Value} {events : List Event}
    (hload : Forest.empty.loadScene v = ⟨r.forest, events, .ok s⟩) (hgenuine : GenuineScene v)
    (hfresh : r.fault = none) (force : Bool) :
    let g := (r.standardizeScene s force).1.forest
    (r.standardizeScene s force).1.fault = none ∧
      ((∃ w, g.writeScene s = .ok w) ↔ ∃ w, r.forest.writeScene s = .ok w) ∧
        ∀ w, g.writeScene s = .ok w → ∃ h found, Forest.empty.loadScene w = ⟨h, found, .ok s⟩ ∧
          Alike g h ∧ (found = [] ∧ SameParts g h ↔ Traceable g) := by
  intro g
  have hordinary := ordinary_of_loadScene hload hgenuine
  obtain ⟨rfl, hscene, hr, ts, hplanted⟩ := orderly_of_loadScene hload
  obtain ⟨hg, hrenamed⟩ : Orderly g ∧ Renamed r.forest g :=
    orderly_of_steps hr (steps_standardizeScene hr)
  refine ⟨?_, ?_, fun w hw => ?_⟩
  · exact (fault_standardizeScene_iff hr hplanted.housed hfresh).mpr fun k _ =>
      not_stuck_of_ordinary hordinary k force
  · have hscene' : (g.scene 0).name ≠ "" := by
      rw [scene, scene?, hrenamed.scenes]
      exact hscene
    rw [exists_writeScene_iff hplanted hordinary hscene hr.names,
      exists_writeScene_iff (hrenamed.planted hplanted) (hordinary.renamed hrenamed) hscene' hg.names]
    refine forall_congr' fun k => ?_
    rw [hrenamed.components]
    refine forall₂_congr fun c hc => ?_
    rw [writable_iff hr hc, writable_iff hg (hrenamed.components k ▸ hc)]
  · obtain ⟨h, found, hload', halike, hreread, hquiet⟩ :=
      reread_of_writeScene hload hgenuine hg hrenamed hw
    refine ⟨h, found, hload', halike, ?_⟩
    rw [← sameParts_iff hg hreread]
    exact ⟨And.right, fun hsame => ⟨hquiet ((sameParts_iff hg hreread).mp hsame), hsame⟩⟩

/-- A toggle with two images, one of which is its mark. -/
def markScene (mark : String) : Value :=
  .object [("scene", .text "S"), ("roots", .list [.object [("name", .text "Mute_Toggle"),
    ("components", .list [.object [("type", .text "Toggle"), ("graphic", .text mark)]]),
    ("children", .list [
      .object [("name", .text "Mark"), ("components", .list [.text "Image"])],
      .object [("name", .text "Mark (1)"), ("components", .list [.text "Image"])]])]])]

def loadedMarks (mark : String) : Forest := (Forest.empty.loadScene (markScene mark)).forest

def standardizedMarks (mark : String) : Forest :=
  ((Renaming.mk (loadedMarks mark) (.new true true) [] none).standardizeScene 0 false).1.forest

lemma genuine_markScene (mark : String) : GenuineScene (markScene mark) := by
  intro fields spec hfields hspec
  cases hfields
  cases hspec
  simp only [NodeSpec.entriesAll, NodeSpec.entries, List.append_nil, List.cons_append, List.nil_append,
    List.forall_mem_cons, Component.genuineEntry_object, Component.genuineEntry_text,
    List.not_mem_nil, false_imp_iff, implies_true, and_true]
  decide

/-- The first of the two images is found again. -/
theorem parts_of_standardized_first : ∃ w h,
    Forest.empty.loadScene (markScene "Mark") = ⟨loadedMarks "Mark", [], .ok 0⟩ ∧
      GenuineScene (markScene "Mark") ∧
        (standardizedMarks "Mark").writeScene 0 = .ok w ∧
          Forest.empty.loadScene w = ⟨h, [], .ok 0⟩ ∧ SameParts (standardizedMarks "Mark") h ∧
            Traceable (standardizedMarks "Mark") := by
  have hload : Forest.empty.loadScene (markScene "Mark") = ⟨loadedMarks "Mark", [], .ok 0⟩ := rfl
  obtain ⟨w, hw⟩ : ∃ w, (standardizedMarks "Mark").writeScene 0 = .ok w := ⟨_, rfl⟩
  have hgenuine := genuine_markScene "Mark"
  obtain ⟨h, found, hagain, -, hiff⟩ := (parts_of_standardized_iff
    (r := ⟨_, .new true true, [], none⟩) hload hgenuine rfl false).2.2 w hw
  have hsame : found = [] ∧ SameParts (standardizedMarks "Mark") h := by
    cases hw
    cases hagain
    exact ⟨rfl, .of_eq rfl⟩
  exact ⟨w, h, hload, hgenuine, hw, hsame.1 ▸ hagain, hsame.2, hiff.mp hsame⟩

/-- Both images get one name, so the second is not found again: the first one is taken for it. -/
theorem parts_of_standardized_second : ∃ w h,
    Forest.empty.loadScene (markScene "Mark (1)") = ⟨loadedMarks "Mark (1)", [], .ok 0⟩ ∧
      (standardizedMarks "Mark (1)").writeScene 0 = .ok w ∧
        Forest.empty.loadScene w = ⟨h, [], .ok 0⟩ ∧
          ((standardizedMarks "Mark (1)").node 1).components.map (·.part? "graphic") = [some 3] ∧
            (h.node 1).components.map (·.part? "graphic") = [some 2] :=
  ⟨_, _, rfl, rfl, rfl, by decide +kernel⟩

end Renaming

end SceneBindings
