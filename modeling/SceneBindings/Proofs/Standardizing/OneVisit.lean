import SceneBindings.Proofs.Standardizing.Parts
import SceneBindings.Validation.Lax

/-!
The name that a node has after its own visit. A visit gives a node its proposed name and then names
its parts after it. One part can be the node itself: what the fill of a slider hangs below is named as
the area around the fill, and that may be the slider. No other role is ever given to the node that is
visited.
-/

namespace SceneBindings

namespace Forest

variable {f : Forest} {c : Capability} {d k : Key} {role : String}

/-! ### A node among its own parts -/

/-- No part of the node's components is the node itself. -/
def PartsApart (f : Forest) (k : Key) : Prop :=
  ∀ c ∈ (f.node k).components, ∀ name d, c.part? name = some d → d ≠ k

/-- The fill of the node's slider hangs directly below the node. -/
def FillBelow (f : Forest) (k : Key) : Prop :=
  ∃ c d, f.component? k .slider = some c ∧ c.part? "fill_rect" = some d ∧ f.IsChild k d

lemma Renamed.fillBelow_iff {g : Forest} (h : Renamed f g) (k : Key) :
    g.FillBelow k ↔ f.FillBelow k := by
  rw [FillBelow, FillBelow, h.component?_eq, h.isChild_eq]

lemma PartsBelow.apart (hparts : f.PartsBelow) (hf : f.WellFormed) (k : Key) : f.PartsApart k := by
  rintro c hc name d hd rfl
  exact hf.not_below_self d (hparts d c hc name d hd)

lemma not_mem_below (f : Forest) (k : Key) (kinds : List ComponentKind) : k ∉ f.below k kinds := by
  simp [below]

lemma eq_of_mem_given {o : Option Key} {word : String} (h : (d, role) ∈ given o word) :
    o = some d := by
  cases o with
  | none => cases h
  | some e =>
    rw [given, List.mem_singleton, Prod.mk.injEq] at h
    rw [h.1]

/-- The parts of a dropdown are found on ways down from it. -/
lemma below_of_mem_dropdownParts (hf : f.WellFormed) (h : (d, role) ∈ f.dropdownParts k) :
    f.Below k d := by
  have hchild : ∀ {p name e}, f.child? p name = some e → f.IsChild p e :=
    fun h => (hf.children _ _).mp (List.mem_of_find?_eq_some h)
  have hbind : ∀ {o : Option Key} {name : String} {e : Key}, (∀ b ∈ o, f.Below k b) →
      (o.bind fun b => f.child? b name) = some e → f.Below k e := by
    intro o name e ho he
    obtain ⟨b, hb, he⟩ := Option.bind_eq_some_iff.mp he
    exact (ho b hb).tail (hchild he)
  have htemplate : ∀ b ∈ f.child? k "Template", f.Below k b := fun b hb => .single (hchild hb)
  simp only [dropdownParts, List.mem_append] at h
  rcases h with ((((h | h) | h) | h) | h) | h
  · exact .single (hchild (eq_of_mem_given h))
  · exact .single (hchild (eq_of_mem_given h))
  · exact htemplate d (eq_of_mem_given h)
  · exact hbind htemplate (eq_of_mem_given h)
  · exact hbind htemplate (eq_of_mem_given h)
  · exact hbind (fun b hb => hbind htemplate hb) (eq_of_mem_given h)

section OwnPart

variable (hapart : f.PartsApart k)

include hapart

lemma PartsApart.renamed {g : Forest} (h : Renamed f g) : g.PartsApart k := by
  rw [PartsApart, h.components]
  exact hapart

lemma ne_of_part? {kind : ComponentKind} {o : Component} {name : String}
    (ho : f.component? k kind = some o) : o.part? name ≠ some k :=
  fun h => hapart o (mem_of_component? ho) name k h rfl

lemma not_mem_given_of_readPart {kind : ComponentKind} {o : Component} {name word : String}
    {part : Option Key} (ho : f.component? k kind = some o) (h : readPart o name = .ok part) :
    (k, role) ∉ given part word := by
  intro hmem
  rw [eq_of_mem_given hmem] at h
  exact ne_of_part? hapart ho (part?_of_readPart h)

lemma eq_fillArea_of_mem_fillParts {o : Component} {fill : Option Key}
    (ho : f.component? k .slider = some o) (hfill : readPart o "fill_rect" = .ok fill)
    (h : (k, role) ∈ f.fillParts fill) : f.FillBelow k ∧ role = "Fill_Area" := by
  unfold fillParts at h
  split at h
  · cases h
  · next d =>
    have hd := part?_of_readPart hfill
    split at h
    · next p hp =>
      simp only [List.mem_cons, Prod.mk.injEq, List.not_mem_nil, or_false] at h
      rcases h with ⟨rfl, rfl⟩ | ⟨rfl, -⟩
      · exact ⟨⟨o, d, ho, hd, hp⟩, rfl⟩
      · exact absurd hd (ne_of_part? hapart ho)
    · cases h

lemma not_mem_handleParts {o : Component} {handle : Option Key}
    (ho : f.component? k .slider = some o) (hhandle : readPart o "handle_rect" = .ok handle) :
    (k, role) ∉ f.handleParts k handle := by
  intro h
  unfold handleParts at h
  split at h
  · cases h
  · next d =>
    have hd := part?_of_readPart hhandle
    rcases List.mem_cons.mp h with h | h
    · obtain ⟨rfl, -⟩ := Prod.mk.inj h
      exact ne_of_part? hapart ho hd
    · split at h
      · next p hp =>
        split at h
        · cases h
        · next hne => exact hne (Prod.mk.inj (List.mem_singleton.mp h)).1.symm
      · cases h

lemma eq_fillArea_of_mem_sliderParts (h : (k, role) ∈ (f.sliderParts k).parts) :
    f.FillBelow k ∧ role = "Fill_Area" := by
  rw [sliderParts] at h
  split at h
  · cases h
  · next o ho =>
    split at h
    · cases h
    · next fill e hfill _ => exact eq_fillArea_of_mem_fillParts hapart ho hfill h
    · next fill handle hfill hhandle =>
      rcases List.mem_append.mp h with h | h
      · exact eq_fillArea_of_mem_fillParts hapart ho hfill h
      · exact absurd h (not_mem_handleParts hapart ho hhandle)

lemma not_mem_readParts {kind : ComponentKind} {o : Component} (ho : f.component? k kind = some o)
    (names : List (String × String)) : (k, role) ∉ (readParts o names).parts := by
  induction names with
  | nil => exact List.not_mem_nil
  | cons n names ih =>
    rw [readParts]
    split
    · exact List.not_mem_nil
    · next part hpart =>
      rw [List.mem_append, not_or]
      exact ⟨not_mem_given_of_readPart hapart ho hpart, ih⟩

/-- The only role that a visit can give to the visited node. -/
lemma eq_fillArea_of_mem (hf : f.WellFormed) (h : (k, role) ∈ (f.partRoles k c).parts) :
    c = .slider ∧ f.FillBelow k ∧ role = "Fill_Area" := by
  have hnot : ∀ {kinds : List ComponentKind} {u : Key → String},
      (k, role) ∉ (f.below k kinds).map fun d => (d, u d) := by
    intro kinds u hmem
    obtain ⟨d, hd, heq⟩ := List.mem_map.mp hmem
    cases heq
    exact not_mem_below f k kinds hd
  cases c with
  | slider => exact ⟨rfl, eq_fillArea_of_mem_sliderParts hapart h⟩
  | inputField =>
    rw [partRoles, inputFieldParts] at h
    dsimp only at h
    split at h
    · cases h
    · exact absurd h hnot
  | toggle =>
    rw [partRoles, toggleParts] at h
    split at h
    · cases h
    · next o ho =>
      split at h
      · cases h
      · next graphic hgraphic =>
        rcases List.mem_append.mp h with h | h
        · exact absurd h (not_mem_given_of_readPart hapart ho hgraphic)
        · obtain ⟨d, hd, heq⟩ := List.mem_map.mp h
          cases heq
          exact absurd (List.mem_filter.mp hd).1 (not_mem_below f k _)
  | dropdown => exact absurd (below_of_mem_dropdownParts hf h) (hf.not_below_self k)
  | scrollArea =>
    rw [partRoles, scrollAreaParts] at h
    split at h
    · cases h
    · next o ho =>
      split at h
      · exact absurd h (not_mem_readParts hapart ho _)
      · cases h
  | panel => cases h
  | _ =>
    rcases List.mem_append.mp h with h | h
    · exact absurd h hnot
    · obtain ⟨d, hd, heq⟩ := List.mem_map.mp h
      cases heq
      exact absurd (List.mem_filter.mp hd).1 (not_mem_below f k _)

end OwnPart

/-- What the fill of a slider hangs below is its fill area, even if the handle cannot be read. -/
lemma fillArea_mem_sliderParts (hfill : f.FillBelow k) :
    (k, "Fill_Area") ∈ (f.sliderParts k).parts := by
  obtain ⟨o, d, ho, hd, hp⟩ := hfill
  have hread : readPart o "fill_rect" = .ok (some d) := by
    rw [Component.part?] at hd
    rw [readPart, Component.held?, hd]
  have hmem : (k, "Fill_Area") ∈ f.fillParts (some d) := by
    rw [IsChild] at hp
    unfold fillParts
    dsimp only
    rw [hp]
    exact List.mem_cons_self
  rw [sliderParts, ho]
  dsimp only
  rw [hread]
  cases readPart o "handle_rect" with
  | error e => exact hmem
  | ok handle => exact List.mem_append_left _ hmem

/-- The role in which a visit names the visited node. -/
lemma lastFor?_partRoles (hf : f.WellFormed) (hapart : f.PartsApart k) (c : Capability) :
    (c = .slider ∧ f.FillBelow k → lastFor? (f.partRoles k c).parts k = some "Fill_Area") ∧
      (¬ (c = .slider ∧ f.FillBelow k) → lastFor? (f.partRoles k c).parts k = none) := by
  constructor
  · rintro ⟨rfl, hfill⟩
    cases hlast : lastFor? (f.partRoles k .slider).parts k with
    | none =>
      exact absurd (List.mem_map_of_mem (fillArea_mem_sliderParts hfill))
        (lastFor?_eq_none.mp hlast)
    | some role => rw [(eq_fillArea_of_mem hapart hf (mem_of_lastFor? hlast)).2.2]
  · intro hno
    cases hlast : lastFor? (f.partRoles k c).parts k with
    | none => rfl
    | some role =>
      obtain ⟨hc, hfill, -⟩ := eq_fillArea_of_mem hapart hf (mem_of_lastFor? hlast)
      exact absurd ⟨hc, hfill⟩ hno

end Forest

namespace Renaming

open Forest

variable {r : Renaming} {d j k : Key} {c : Capability} {force : Bool} {new : String}

/-! ### Renamings of one node -/

lemma name_rename_of_ne (h : k ≠ d) : (r.rename d new).1.name k = r.name k := by
  rw [rename]
  dsimp only
  split
  · rfl
  · rw [name, Forest.rename]
    split
    · rfl
    · rw [node_announce, node_modify, if_neg fun hkd => h hkd.1, name]

lemma isNode_rename (d : Key) (new : String) (k : Key) :
    (r.rename d new).1.forest.IsNode k ↔ r.forest.IsNode k := by
  rw [rename]
  dsimp only
  split
  · exact Iff.rfl
  · refine isNode_of_length ?_
    rw [Forest.rename]
    split
    · rfl
    · rw [nodes_announce, length_modify]

/-- The last of the names that are given to a node stays, whatever else is renamed. -/
lemma name_renameAll_self {names : List (Key × String)} (hk : r.forest.IsNode k)
    (hne : ∀ n ∈ names, n.2 ≠ "") :
    (r.renameAll names).name k = (lastFor? names k).getD (r.name k) := by
  induction names generalizing r with
  | nil => rfl
  | cons n names ih =>
    rw [List.forall_mem_cons] at hne
    have hnode := (isNode_rename n.1 n.2 k).mpr hk
    have hall : r.renameAll (n :: names) = (r.rename n.1 n.2).1.renameAll names := rfl
    rw [hall, ih hnode hne.2, lastFor?_cons]
    cases lastFor? names k with
    | some y => rfl
    | none =>
      by_cases hnk : n.1 = k
      · simp [hnk, name_rename hk hne.1]
      · simp [hnk, name_rename_of_ne (Ne.symm hnk)]

/-! ### One visit -/

/-- The names that a visit gives to the parts of a node. -/
def givenNames (r : Renaming) (k : Key) (force : Bool) : List (Key × String) :=
  let done := r.rename k (r.canonicalName k)
  if done.2 && r.namer.renamesParts || force then done.1.partNames k (r.forest.classify k) else []

lemma standardize_of_leavesAlone (h : r.leavesAlone k force = true) :
    r.standardize k force = (r, false) := if_pos h

lemma standardize_eq_renameAll (h : r.leavesAlone k force = false) : ∃ e, r.standardize k force =
    (((r.rename k (r.canonicalName k)).1.renameAll (r.givenNames k force)).stop e,
      (r.rename k (r.canonicalName k)).2) := by
  rw [standardize]
  dsimp only
  rw [← leavesAlone, h, if_neg Bool.false_ne_true, givenNames, canonicalName]
  split
  · exact ⟨_, rfl⟩
  · exact ⟨(r.rename k (Name.normalize (r.name k) (r.forest.classify k) true)).1.fault, rfl⟩

/-- Whether a visit renames the node is read off its proposed name. -/
lemma standardize_snd_iff (k : Key) (force : Bool) :
    (r.standardize k force).2 = true ↔ r.namer.proposedName r.forest k force ≠ r.name k := by
  cases h : r.leavesAlone k force with
  | true =>
    rw [standardize_of_leavesAlone h, proposedName_of_leavesAlone h]
    simp
  | false =>
    have hne := (isTidy_canonicalName_of_nameable (nameable_of_not_leavesAlone h)).1
    obtain ⟨e, hvisit⟩ := standardize_eq_renameAll h
    rw [hvisit, proposedName_of_not_leavesAlone h]
    exact rename_snd_iff hne

/-- A visit takes the slider for the area around its own fill. -/
def TakenForFillArea (r : Renaming) (k : Key) (force : Bool) : Prop :=
  (r.forest.classify k = .slider ∧ r.forest.FillBelow k) ∧
    (force = true ∨ r.namer.renamesParts = true ∧
      r.namer.proposedName r.forest k force ≠ r.name k)

/-- Parts have names, even if nothing but the type word and a role is left for them. -/
lemma partName_ne_empty (hc : c.typeWord?.isSome = true) (name role : String) :
    partName name c role ≠ "" := by
  obtain ⟨word, hword⟩ := Option.isSome_iff_exists.mp hc
  have hne : word ≠ "" := by
    rintro rfl
    revert hword
    cases c <;> decide
  rw [partName, hword, Option.getD_some]
  refine intercalate_ne_empty (w := word) (List.mem_filter.mpr ⟨by simp, ?_⟩) hne
  rw [Bool.not_eq_true', ← Bool.not_eq_true, String.isEmpty_iff]
  exact hne

lemma ne_empty_of_mem_partNames (hc : c.typeWord?.isSome = true) :
    ∀ n ∈ r.partNames k c, n.2 ≠ "" := by
  intro n hn
  obtain ⟨p, -, rfl⟩ := List.mem_map.mp hn
  dsimp only
  exact partName_ne_empty hc _ _

lemma not_takenForFillArea_of_leavesAlone (h : r.leavesAlone k force = true) :
    ¬ r.TakenForFillArea k force := by
  rintro ⟨⟨hslider, -⟩, hforce | ⟨-, hother⟩⟩
  · rw [leavesAlone, hslider, Standardizer.keepsName, hforce] at h
    simp [Capability.typeWord?] at h
  · exact hother (proposedName_of_leavesAlone h)

section Own

variable (hk : r.forest.IsNode k) (hf : r.forest.WellFormed) (hapart : r.forest.PartsApart k)

include hk hf hapart

/-- The name that the node's own part gives it, if it is one of its parts. -/
lemma lastFor?_partNames (hname : (r.rename k new).1.name k = new) :
    (r.forest.classify k = .slider ∧ r.forest.FillBelow k →
      lastFor? ((r.rename k new).1.partNames k (r.forest.classify k)) k =
        some (partName new .slider "Fill_Area")) ∧
    (¬ (r.forest.classify k = .slider ∧ r.forest.FillBelow k) →
      lastFor? ((r.rename k new).1.partNames k (r.forest.classify k)) k = none) := by
  have hrenamed := renamed_rename hk new
  obtain ⟨hown, hother⟩ := lastFor?_partRoles (hrenamed.wellFormed hf) (hapart.renamed hrenamed)
    (r.forest.classify k)
  rw [hrenamed.fillBelow_iff] at hown hother
  rw [partNames, hname, lastFor?_map]
  refine ⟨fun h => ?_, fun h => by rw [hother h, Option.map_none]⟩
  rw [hown h, h.1, Option.map_some]

/-- The name that a visit leaves the node with: its proposed name, or the name of the area around its
own fill. -/
lemma name_standardize_self (force : Bool) : (¬ r.TakenForFillArea k force →
      (r.standardize k force).1.name k = r.namer.proposedName r.forest k force) ∧
    (r.TakenForFillArea k force → (r.standardize k force).1.name k =
      partName (r.namer.proposedName r.forest k force) .slider "Fill_Area") := by
  cases h : r.leavesAlone k force with
  | true =>
    have hnot := not_takenForFillArea_of_leavesAlone h
    rw [standardize_of_leavesAlone h, proposedName_of_leavesAlone h]
    exact ⟨fun _ => rfl, fun htaken => absurd htaken hnot⟩
  | false =>
    have hnameable := nameable_of_not_leavesAlone h
    have hne := (isTidy_canonicalName_of_nameable hnameable).1
    have hname : (r.rename k (r.canonicalName k)).1.name k = r.canonicalName k := by
      rw [name_rename hk hne, if_pos rfl]
    obtain ⟨hown, hother⟩ := lastFor?_partNames hk hf hapart hname
    have hvisits := visitsParts_iff h
    obtain ⟨e, hvisit⟩ := standardize_eq_renameAll h
    rw [TakenForFillArea, ← hvisits, hvisit, proposedName_of_not_leavesAlone h, givenNames]
    dsimp only
    rw [stop_name]
    split
    · next hparts =>
      have hnames := ne_empty_of_mem_partNames (r := (r.rename k (r.canonicalName k)).1) (k := k)
        hnameable
      rw [name_renameAll_self ((isNode_rename k _ k).mpr hk) hnames, hname]
      refine ⟨fun hno => ?_, fun htaken => ?_⟩
      · rw [hother fun hself => hno ⟨hself, hparts⟩, Option.getD_none]
      · rw [hown htaken.1, Option.getD_some]
    · next hparts => exact ⟨fun _ => hname, fun htaken => absurd htaken.2 hparts⟩

end Own

/-- A canonical name ends with the type word, and the name of an area around a fill does not. -/
lemma partName_ne_canonicalName (hslider : r.forest.classify k = .slider) (name : String) :
    partName name .slider "Fill_Area" ≠ r.canonicalName k := by
  intro heq
  have hword : Capability.slider.typeWord? = some "Slider" := rfl
  have hpart := partEnd_suffix_partName hword (by decide : "Fill_Area" ≠ "") name
  have hown := Naming.suffix_withType "Slider".toList (r.name k).toList
  rw [← Name.toList_normalize hword, ← hslider, ← canonicalName, ← heq] at hown
  exact absurd (List.suffix_of_suffix_length_le hown hpart (by decide)) (by decide)

/-- **What a visit does to names.** In a loaded scene a visit stops just if it goes on to parts that
cannot be read. Whether it stops or not, the visited node gets its proposed name just if it is not
taken for the area around its own fill; the visit says that it renamed the node just if the proposed
name was another one; and no node outside of the subtree gets another name. -/
theorem standardize_name_iff [Validator] {v : Value} {events : List Event} {s : SceneId}
    (hload : Forest.empty.loadScene v = ⟨r.forest, events, .ok s⟩) (hfresh : r.fault = none)
    (hk : k ∈ r.forest.walk s) (force : Bool) :
    ((r.standardize k force).1.fault = none ↔ ¬ r.Stuck k force) ∧
      ((r.standardize k force).1.name k = r.namer.proposedName r.forest k force ↔
        ¬ r.TakenForFillArea k force) ∧
      ((r.standardize k force).2 = true ↔ r.namer.proposedName r.forest k force ≠ r.name k) ∧
      ∀ j, ¬ r.forest.Within k j → (r.standardize k force).1.name j = r.name j := by
  obtain ⟨-, -, hr, -⟩ := orderly_of_loadScene hload
  have hnode := hr.wellFormed.isNode_of_mem_walk hk
  obtain ⟨hplain, htaken⟩ := name_standardize_self hnode hr.wellFormed
    (hr.parts.apart hr.wellFormed k) force
  refine ⟨?_, ⟨fun hname htakes => ?_, hplain⟩, standardize_snd_iff k force,
    fun j => name_standardize_of_not_within hr hnode⟩
  · rw [← fault_standardize hfresh hnode, Option.not_isSome_iff_eq_none]
  · have hleft : r.leavesAlone k force = false :=
      eq_false_of_ne_true fun h => not_takenForFillArea_of_leavesAlone h htakes
    rw [htaken htakes, proposedName_of_not_leavesAlone hleft] at hname
    exact partName_ne_canonicalName htakes.1.1 _ hname

/-- A slider with two bars below it, one in an area of its own; one of them is its fill. -/
def volumeScene (fill : String) : Value :=
  .object [("scene", .text "S"), ("roots", .list [.object [("name", .text "Volume"),
    ("components", .list [.object [("type", .text "Slider"), ("fill_rect", .text fill)]]),
    ("children", .list [
      .object [("name", .text "Area"), ("children", .list [.object [("name", .text "Bar")]])],
      .object [("name", .text "Bar")]])]])]

def loadedVolume (fill : String) : Renaming :=
  ⟨(Forest.empty.loadScene (volumeScene fill)).forest, .new true true, [], none⟩

/-- The fill hangs in an area, and the slider has its proposed name. -/
theorem standardize_name_of_area :
    Forest.empty.loadScene (volumeScene "Area/Bar") = ⟨(loadedVolume "Area/Bar").forest, [], .ok 0⟩ ∧
      let r := loadedVolume "Area/Bar"
      (r.standardize 1 false).1.fault = none ∧
        (r.standardize 1 false).1.name 1 = "Volume_Slider" ∧
        (r.standardize 1 false).1.name 2 = "Volume_Slider_Fill_Area" ∧
        ¬ r.TakenForFillArea 1 false ∧ (r.standardize 1 false).2 = true := by
  have hload : Forest.empty.loadScene (volumeScene "Area/Bar") =
      ⟨(loadedVolume "Area/Bar").forest, [], .ok 0⟩ := rfl
  have hproposed : (loadedVolume "Area/Bar").namer.proposedName (loadedVolume "Area/Bar").forest 1
      false = "Volume_Slider" := by decide +kernel
  have hname : ((loadedVolume "Area/Bar").standardize 1 false).1.name 1 = "Volume_Slider" := by
    decide +kernel
  obtain ⟨hstops, htaken, hrenamed, -⟩ :=
    standardize_name_iff hload rfl (k := 1) (by decide +kernel) false
  rw [hproposed] at htaken hrenamed
  exact ⟨hload, hstops.mpr (by decide +kernel), hname, by decide +kernel, htaken.mp hname,
    hrenamed.mpr (by decide +kernel)⟩

/-- The fill hangs directly below the slider, and the slider is named as the area around it. -/
theorem standardize_name_of_bar :
    Forest.empty.loadScene (volumeScene "Bar") = ⟨(loadedVolume "Bar").forest, [], .ok 0⟩ ∧
      let r := loadedVolume "Bar"
      1 ∈ r.forest.walk 0 ∧ r.namer.proposedName r.forest 1 false = "Volume_Slider" ∧
        (r.standardize 1 false).1.name 1 = "Volume_Slider_Fill_Area" :=
  ⟨rfl, by decide +kernel, by decide +kernel, by decide +kernel⟩

end Renaming

end SceneBindings
