import SceneBindings.Proofs.Emit.Accounting
import SceneBindings.Proofs.Emit.Scope

/-!
The lifecycle members of a library: the class `UI` is initialized by two methods, and the class of a
panel is shown and hidden by six members. A class or an element of such a name binds it again.
-/

namespace SceneBindings

namespace Naming

open Text

/-- Names become one identifier if they have the same runs, but for names without any. -/
lemma sanitize_eq_iff {s t : List Char} (ht : sanitize t ≠ unnamed) :
    sanitize s = sanitize t ↔ runs s = runs t := by
  refine ⟨fun h => ?_, sanitize_congr⟩
  have hs : runs s ≠ [] := fun hs => ht (h ▸ sanitize_of_runs_nil hs)
  have ht' : runs t ≠ [] := fun hr => ht (sanitize_of_runs_nil hr)
  rw [← runs_sanitize hs, h, runs_sanitize ht']

end Naming

namespace PanelGroup

/-- The part of a name that becomes the property: what follows the panel word or the first word, or
the whole name if nothing does. -/
def ownPart (name : String) : String :=
  let words := nameParts name
  let rest :=
    match panelIndex? words with
    | some i => words.drop (i + 1)
    | none => words.drop 1
  if rest.isEmpty then name else "_".intercalate rest

lemma propertyName_eq (name : String) :
    propertyName name = Name.escapeKeyword (Name.sanitize (ownPart name)) := rfl

end PanelGroup

namespace LineReading

open Emit HookScan Naming Text

/-! ### What is read -/

/-- The methods by which a library is initialized. -/
def rootMembers : List String := ["initialize", "is_initialized"]

/-- The members by which a class shows and hides its panel. -/
def panelMembers : List String := panelStatements.map (·.binds)

/-- The name that a line binds in the class `UI`: that of a method or of a class. -/
def rootName? (line : String) : Option String := (methodHead? line).or (classHead? line)

/-- The names that lines bind in the class `UI`, and those that they bind in one of its classes. -/
def rootNames (ls : List String) : List String := ls.filterMap rootName?

def ownNames (ls : List String) : List String := (ls.filterMap statement?).map (·.binds)

/-- Each lifecycle member is bound once where it belongs, so nothing takes its place. -/
structure Undisturbed (scene : String) (groups : List PanelGroup) : Prop where
  root : ∀ m ∈ rootMembers,
    (rootNames (libraryOpening scene ++ groups.flatMap groupLines)).count m = 1
  panel : ∀ group ∈ groups, group.panel.isSome →
    ∀ m ∈ panelMembers, (ownNames (groupLines group)).count m = 1

/-! ### Lines of the class -/

/-- A line that begins like this binds nothing in the class `UI`. -/
def beginsDeeper (cs : List Char) : Bool :=
  (!cs.isPrefixOf "    def ".toList && (expect? "    def ".toList cs).isNone) &&
    (!cs.isPrefixOf "    class ".toList && (expect? "    class ".toList cs).isNone)

lemma rootName?_append (cs : List Char) (h : beginsDeeper cs = true) (m : String) :
    rootName? (String.ofList cs ++ m) = none := by
  obtain ⟨hdef, hclass⟩ := Bool.and_eq_true_iff.mp h
  rw [Bool.and_eq_true, Bool.not_eq_true', Option.isNone_iff_eq_none] at hdef
  have hline : (String.ofList cs ++ m).toList = cs ++ m.toList := by
    rw [String.toList_append, String.toList_ofList]
  rw [rootName?, classHead?_append hclass, methodHead?, nameAfter?, hline,
    expect?_append_eq_none hdef.2 hdef.1, Option.map_none]
  rfl

lemma rootName?_literal (cs : List Char) (h : beginsDeeper cs = true) :
    rootName? (String.ofList cs) = none := by
  have hline := rootName?_append cs h ""
  rwa [String.append_empty] at hline

lemma rootNames_opening (scene : String) : rootNames (libraryOpening scene) = rootMembers := by
  have hname := rootName?_append "SCENE_NAME = ".toList (by decide) (quoted scene)
  have hdoc := rootName?_append
    "    \"\"\"Dot-path access to every registered UI element of ".toList (by decide)
    (scene ++ "\"\"\"")
  simp only [String.ofList_toList] at hname hdoc
  have hmethods : rootName? "    def initialize(registry):" = some "initialize" ∧
      rootName? "    def is_initialized() -> bool:" = some "is_initialized" := by decide +kernel
  have hsilent : ∀ l ∈ ["", "_binding = LibraryBinding(SCENE_NAME)", "class UI:",
      "    @staticmethod", "        _binding.initialize(registry)",
      "        return _binding.is_initialized"], rootName? l = none := by decide +kernel
  simp only [List.forall_mem_cons] at hsilent
  obtain ⟨hblank, hbinding, hclass, hstatic, hcall, hreturn, -⟩ := hsilent
  simp only [rootNames, libraryOpening, String.append_assoc, List.filterMap_cons, hname, hdoc,
    hmethods, hblank, hbinding, hclass, hstatic, hcall, hreturn, List.filterMap_nil]
  rfl

/-! The lines of a class are indented deeper than its head. -/

lemma rootName?_panelLines (p : Reference) : ∀ l ∈ panelLines p, rootName? l = none := by
  have happend : ∀ cs m, beginsDeeper cs = true → rootName? (String.ofList cs ++ m) = none :=
    fun cs m h => rootName?_append cs h m
  have hblank : rootName? "" = none := by decide
  simp only [panelLines, List.forall_mem_cons, String.append_assoc]
  and_intros
  · exact happend _ _ rfl
  · exact rootName?_literal _ rfl
  · exact rootName?_literal _ rfl
  · exact hblank
  · exact rootName?_literal _ rfl
  · exact rootName?_literal _ rfl
  · exact happend _ _ rfl
  · exact happend _ _ rfl
  · exact hblank
  · exact rootName?_literal _ rfl
  · exact rootName?_literal _ rfl
  · exact happend _ _ rfl
  · exact hblank
  · exact rootName?_literal _ rfl
  · exact rootName?_literal _ rfl
  · exact happend _ _ rfl
  · exact List.forall_mem_nil _

lemma rootName?_elementLines (gap : Bool) (role : Option Capability) (es : List GroupElement) :
    ∀ l ∈ elementLines gap role es, rootName? l = none := by
  induction es generalizing gap role with
  | nil => exact List.forall_mem_nil _
  | cons e es ih =>
    rw [elementLines, List.forall_mem_append, List.forall_mem_cons]
    refine ⟨?_, ?_, ih _ _⟩
    · split
      · exact List.forall_mem_nil _
      · rw [List.forall_mem_append, List.forall_mem_singleton]
        refine ⟨fun l hl => ?_, rootName?_append _ rfl _⟩
        rw [List.mem_singleton.mp (mem_of_mem_linesIf hl)]
        decide
    · rw [accessorLine]
      simp only [String.append_assoc]
      exact rootName?_append _ rfl _

lemma rootName?_groupBody (g : PanelGroup) : ∀ l ∈ groupBody g, rootName? l = none := by
  rw [groupBody]
  split
  · next p _ =>
    exact List.forall_mem_append.mpr ⟨rootName?_panelLines p, rootName?_elementLines _ _ _⟩
  · exact rootName?_elementLines _ _ _

lemma rootNames_groupRest (g : PanelGroup) : rootNames (groupRest g) = [] := by
  have hblank : rootName? "" = none := by decide
  rw [rootNames, List.filterMap_eq_nil_iff, groupRest]
  simp only [List.forall_mem_append, List.forall_mem_cons, String.append_assoc]
  refine ⟨⟨⟨rootName?_append _ rfl _, hblank, List.forall_mem_nil _⟩, ?_⟩,
    rootName?_literal _ rfl, hblank, List.forall_mem_nil _⟩
  split
  · exact List.forall_mem_singleton.mpr (rootName?_literal _ rfl)
  · exact rootName?_groupBody g

lemma rootNames_groupLines (g : PanelGroup) : rootNames (groupLines g) = [g.className] := by
  have hregion : rootName? ("    # region " ++ g.key) = none := rootName?_append _ rfl _
  have hhead : rootName? ("    class " ++ g.className ++ ":") = some g.className := by
    have hmethod : methodHead? ("    class " ++ g.className ++ ":") = none := by
      have hline : ("    class " ++ (g.className ++ ":")).toList =
          "    class ".toList ++ (g.className ++ ":").toList := String.toList_append
      rw [methodHead?, nameAfter?, String.append_assoc, hline,
        expect?_append_eq_none (by decide) (by decide), Option.map_none]
    rw [rootName?, hmethod, classHead?_group]
    rfl
  have hrest := rootNames_groupRest g
  rw [rootNames] at hrest ⊢
  rw [groupLines_eq, List.singleton_append, List.filterMap_cons, hregion, List.filterMap_cons,
    hhead, hrest]

/-! ### Which names are bound twice -/

/-- The names of the class `UI` are its methods and the classes of the groups. -/
lemma rootNames_library (scene : String) (groups : List PanelGroup) :
    rootNames (libraryOpening scene ++ groups.flatMap groupLines) =
      rootMembers ++ groups.map (·.className) := by
  have hgroups : rootNames (groups.flatMap groupLines) = groups.map (·.className) := by
    induction groups with
    | nil => rfl
    | cons g groups ih =>
      rw [rootNames] at ih
      rw [List.flatMap_cons, rootNames, List.filterMap_append, ih, ← rootNames,
        rootNames_groupLines, List.singleton_append, List.map_cons]
  rw [rootNames, List.filterMap_append, ← rootNames, ← rootNames, rootNames_opening, hgroups]

/-- The names of the class of a panel are its members and the properties of the elements. -/
lemma ownNames_groupLines {g : PanelGroup} (hg : Named g) (hpanel : g.panel.isSome) :
    ownNames (groupLines g) = panelMembers ++ g.elements.map (·.property) := by
  rw [ownNames, statements_groupLines hg, statementsOf, if_pos hpanel, List.map_append,
    List.map_map]
  rfl

lemma count_append_eq_one_iff {ms names : List String} (hms : ms.Nodup) {m : String} (hm : m ∈ ms) :
    (ms ++ names).count m = 1 ↔ m ∉ names := by
  rw [List.count_append, List.count_eq_one_of_mem hms hm, ← List.count_eq_zero]
  omega

lemma undisturbed_iff_forall {f : Forest} {g : Registry} {scene : String} :
    Undisturbed scene (PanelGroup.build f g).1 ↔
      (∀ group ∈ (PanelGroup.build f g).1, group.className ∉ rootMembers) ∧
      (∀ group ∈ (PanelGroup.build f g).1, group.panel.isSome →
        ∀ e ∈ group.elements, e.property ∉ panelMembers) := by
  have hroot : rootMembers.Nodup := by decide
  have hpanel : panelMembers.Nodup := by decide
  constructor
  · rintro ⟨hclasses, hproperties⟩
    refine ⟨fun group hgroup hm => ?_, fun group hgroup hsome e he hm => ?_⟩
    · have hone := hclasses _ hm
      rw [rootNames_library, count_append_eq_one_iff hroot hm] at hone
      exact hone (List.mem_map_of_mem hgroup)
    · have hone := hproperties group hgroup hsome _ hm
      rw [ownNames_groupLines (named_build hgroup) hsome, count_append_eq_one_iff hpanel hm] at hone
      exact hone (List.mem_map_of_mem he)
  · rintro ⟨hclasses, hproperties⟩
    refine ⟨fun m hm => ?_, fun group hgroup hsome m hm => ?_⟩
    · rw [rootNames_library, count_append_eq_one_iff hroot hm, List.mem_map]
      rintro ⟨group, hgroup, rfl⟩
      exact hclasses group hgroup hm
    · rw [ownNames_groupLines (named_build hgroup) hsome, count_append_eq_one_iff hpanel hm,
        List.mem_map]
      rintro ⟨e, he, rfl⟩
      exact hproperties group hgroup hsome e he hm

/-! ### Which names these are -/

/-- The runs of the names that are sanitized to some members. -/
def runsOf (members : List String) : List (List (List Char)) := members.map fun m => runs m.toList

/-- A name becomes one of some members exactly if it has the runs of a member. -/
lemma escapeKeyword_sanitize_mem_iff {members : List String}
    (hown : ∀ m ∈ members, Name.escapeKeyword (Name.sanitize m) = m)
    (hnamed : ∀ m ∈ members, sanitize m.toList ≠ unnamed) (s : String) :
    Name.escapeKeyword (Name.sanitize s) ∈ members ↔ runs s.toList ∈ runsOf members := by
  have hone : ∀ m ∈ members, m = Name.escapeKeyword (Name.sanitize s) ↔
      runs m.toList = runs s.toList := by
    intro m hm
    have hsanitize : m = Name.escapeKeyword (Name.sanitize s) ↔
        Name.sanitize s = Name.sanitize m := by
      constructor
      · intro h
        exact Name.escapeKeyword_sanitize_inj (h.symm.trans (hown m hm).symm)
      · intro h
        rw [h, hown m hm]
    rw [hsanitize, Name.sanitize, Name.ofChars, Name.ofChars, String.ofList_inj,
      sanitize_eq_iff (hnamed m hm), eq_comm]
  rw [runsOf, List.mem_map]
  constructor
  · intro h
    exact ⟨_, h, (hone _ h).mp rfl⟩
  · rintro ⟨m, hm, heq⟩
    exact (hone m hm).mpr heq ▸ hm

variable {f : Forest} {g : Registry}

/-- The class names of a registry come from the names of the references that have a sound path. -/
lemma mem_classNames {name : String} :
    name ∈ (PanelGroup.build f g).1.map (·.className) ↔
      ∃ r ∈ g.references, isCanonicalPath r.path = true ∧
        name = Name.escapeKeyword (Name.sanitize (PanelGroup.groupKey r.name)) := by
  have hclass : ∀ r, PanelGroup.className (PanelGroup.ofBucket f (PanelGroup.keyOf r)
      (PanelGroup.bucketOf g (PanelGroup.keyOf r))).1 =
        Name.escapeKeyword (Name.sanitize (PanelGroup.groupKey r.name)) := fun r =>
    congrArg Name.escapeKeyword (Name.sanitize_sanitize _)
  rw [PanelGroup.build_eq, List.map_map, List.mem_map]
  constructor
  · rintro ⟨k, hk, rfl⟩
    obtain ⟨r, hr, hpath, rfl⟩ := PanelGroup.mem_keysOf.mp hk
    exact ⟨r, hr, hpath, hclass r⟩
  · rintro ⟨r, hr, hpath, rfl⟩
    exact ⟨_, PanelGroup.mem_keysOf.mpr ⟨r, hr, hpath, rfl⟩, hclass r⟩

lemma property_eq {group : PanelGroup} (h : group ∈ (PanelGroup.build f g).1) {e : GroupElement}
    (he : e ∈ group.elements) : e.property = PanelGroup.propertyName e.reference.name := by
  obtain ⟨r, -, hr⟩ := (PanelGroup.build_madeOf h).elements e he
  rw [hr.property, hr.reference]

/-- **Which names disturb the lifecycle of a library.** The methods of the class `UI` stay unless a
name asks for a group with the runs of one of them, and the members of a panel stay unless an
element of its group has the runs of one of them in its own part. -/
theorem undisturbed_iff (scene : String) : Undisturbed scene (PanelGroup.build f g).1 ↔
    (∀ r ∈ g.references, isCanonicalPath r.path = true →
      runs (PanelGroup.groupKey r.name).toList ∉ runsOf rootMembers) ∧
    (∀ group ∈ (PanelGroup.build f g).1, group.panel.isSome → ∀ e ∈ group.elements,
      runs (PanelGroup.ownPart e.reference.name).toList ∉ runsOf panelMembers) := by
  have hroot := @escapeKeyword_sanitize_mem_iff rootMembers (by decide +kernel)
    (by decide +kernel)
  have hpanel := @escapeKeyword_sanitize_mem_iff panelMembers (by decide +kernel)
    (by decide +kernel)
  rw [undisturbed_iff_forall]
  refine and_congr ⟨fun h r hr hpath => ?_, fun h group hgroup hm => ?_⟩ ?_
  · obtain ⟨group, hgroup, heq⟩ := List.mem_map.mp (mem_classNames.mpr ⟨r, hr, hpath, rfl⟩)
    rw [← hroot, ← heq]
    exact h group hgroup
  · obtain ⟨r, hr, hpath, heq⟩ := mem_classNames.mp (List.mem_map_of_mem hgroup)
    rw [heq, hroot] at hm
    exact h r hr hpath hm
  · refine forall₂_congr fun group hgroup => imp_congr_right fun _ => forall₂_congr fun e he => ?_
    rw [property_eq hgroup he, PanelGroup.propertyName_eq, hpanel]

/-- A registry of one button, whose group is called like a method of the class `UI`. -/
def startRegistry : Registry :=
  { Registry.blank .empty with
    store := [⟨"initialize_Start", "initialize_Start", .button, .never⟩]
    categories := [⟨"Button", [0]⟩] }

/-- The class of this group stands in the place of the method that initializes the library. -/
theorem not_undisturbed : ¬ ∀ (f : Forest) (g : Registry) (scene : String),
    Undisturbed scene (PanelGroup.build f g).1 := by
  intro h
  have hclasses := (undisturbed_iff_forall.mp (h .empty startRegistry "Main")).1
  revert hclasses
  decide +kernel

end LineReading

end SceneBindings
