import SceneBindings.Files.Clock
import SceneBindings.Proofs.Emit.Accessors
import SceneBindings.Proofs.Emit.Wiring

/-!
A machine unit and a library that are made from one registry agree: what the unit wires is what the
library gives access to. The two emitters find their names apart from each other.
-/

namespace SceneBindings

open Emit HookScan LineReading Naming

/-! ### What is signed -/

namespace Signature

lemma distinct_names {seen : List String} {all : List (Signature × String)} :
    ((distinct seen all).1.map (·.name)).Nodup ∧ ∀ s ∈ (distinct seen all).1, s.name ∉ seen := by
  induction all generalizing seen with
  | nil => exact ⟨List.nodup_nil, List.forall_mem_nil _⟩
  | cons a all ih =>
    obtain ⟨s, path⟩ := a
    rw [distinct]
    split
    · exact ih
    · next hnew =>
      obtain ⟨hnodup, hfresh⟩ := @ih (s.name :: seen)
      rw [List.contains_iff_mem] at hnew
      refine ⟨List.nodup_cons.mpr ⟨fun hmem => ?_, hnodup⟩, List.forall_mem_cons.mpr ⟨hnew, ?_⟩⟩
      · obtain ⟨t, ht, heq⟩ := List.mem_map.mp hmem
        exact hfresh t ht (heq ▸ List.mem_cons_self)
      · exact fun t ht hmem => hfresh t ht (List.mem_cons_of_mem _ hmem)

/-- No two hooks have one name. -/
theorem collect_names (groups : List PanelGroup) : ((collect groups).1.map (·.name)).Nodup :=
  ((List.mergeSort_perm _ _).map _).nodup_iff.mpr distinct_names.1

lemma capability_mem_firing {c : Capability} {h : HookSpec} (hc : c.hook? = some h) :
    c ∈ Capability.firing := by
  cases c <;> cases hc <;> decide

/-- Where a signature comes from. -/
lemma exists_of_mem_collect {groups : List PanelGroup} {s : Signature}
    (h : s ∈ (collect groups).1) : ∃ g ∈ groups, ∃ e ∈ g.elements,
      e.reference.capability.hook? = some s.hook ∧ s.capability = e.reference.capability ∧
        s.element = e.reference.name ∧ s.accessor = "UI." ++ g.className ++ "." ++ e.property := by
  obtain ⟨g, hg, e, he, hs⟩ := mem_collect h
  obtain ⟨hook, hhook, rfl⟩ := Option.map_eq_some_iff.mp hs
  exact ⟨g, hg, e, he, hhook, rfl, rfl, rfl⟩

end Signature

namespace LineReading

variable {f : Forest} {g : Registry}

lemma isIdentifier_event {c : Capability} {h : HookSpec} (hc : c.hook? = some h) :
    IsIdentifier h.event := by
  refine List.all_eq_true.mp ?_
  cases c <;> cases hc <;> decide

lemma located_collect {s : Signature} (h : s ∈ (Signature.collect (PanelGroup.build f g).1).1) :
    Located s := by
  obtain ⟨group, hgroup, e, he, hhook, -, -, haccessor⟩ := Signature.exists_of_mem_collect h
  obtain ⟨r, -, hr⟩ := (PanelGroup.build_madeOf hgroup).elements e he
  refine ⟨⟨_, _, isIdentifier_escapeKeyword _, ?_, haccessor⟩, isIdentifier_event hhook, ?_⟩
  · rw [hr.property]
    exact isIdentifier_escapeKeyword _
  · obtain ⟨tail, -, htail, hname⟩ := (Signature.wired_collect h).name
    have hon : ∀ c ∈ "on_".toList, isIdentifierChar c = true := List.all_eq_true.mp (by decide)
    rw [IsIdentifier, hname, String.toList_ofList]
    exact List.forall_mem_append.mpr ⟨hon, htail⟩

lemma isIdentifier_accessorType (f : Forest) (c : Capability) (k : Option Key) :
    IsIdentifier (f.accessorTypeOf c k) := by
  have htypes : IsIdentifier c.accessorType := by
    refine List.all_eq_true.mp ?_
    cases c <;> decide
  rw [Forest.accessorTypeOf.eq_def]
  split
  · split
    · exact List.all_eq_true.mp (by decide)
    · exact htypes
  · exact htypes

lemma written_build (hnames : ∀ r ∈ g.references, Unbroken r.name) {group : PanelGroup}
    (h : group ∈ (PanelGroup.build f g).1) : Written group where
  key := by
    obtain ⟨name, hname⟩ := (PanelGroup.build_madeOf h).key
    exact hname ▸ isIdentifier_sanitize name
  panel p hp := hnames p ((PanelGroup.build_madeOf h).panel p hp)
  elements e he := by
    obtain ⟨r, -, hr⟩ := (PanelGroup.build_madeOf h).elements e he
    obtain ⟨k, hk⟩ := hr.accessor
    exact ⟨hr.property ▸ isIdentifier_escapeKeyword _, hk ▸ isIdentifier_accessorType f _ k⟩

/-! ### Dates and hints -/

lemma unbroken_pad (width n : Nat) : Unbroken (Timestamp.pad width n) := by
  refine .of_identifier fun c hc => ?_
  rw [Timestamp.pad, String.toList_ofList, List.mem_append] at hc
  have hdigit : c.isDigit = true := by
    rcases hc with hc | hc
    · rw [List.eq_of_mem_replicate hc]
      decide
    · exact Nat.isDigit_of_mem_toDigits (by decide) (by decide) hc
  rw [isIdentifierChar, Char.isAlphanum, hdigit, Bool.or_true, Bool.true_or]

lemma unbroken_date (t : Timestamp) : Unbroken t.text := by
  have hdash : Unbroken "-" := .literal _ rfl
  have hcolon : Unbroken ":" := .literal _ rfl
  have ht : Unbroken "T" := .literal _ rfl
  have hday := ((((unbroken_pad 4 t.year).append hdash).append (unbroken_pad 2 t.month)).append
    hdash).append (unbroken_pad 2 t.day)
  exact (((((hday.append ht).append (unbroken_pad 2 t.hour)).append hcolon).append
    (unbroken_pad 2 t.minute)).append hcolon).append (unbroken_pad 2 t.second)

lemma unbroken_names {text n : String} (h : n ∈ HookScan.names text) : Unbroken n := by
  rw [HookScan.names, SignatureDiff.mem_sorted, scan] at h
  obtain ⟨name, hname, rfl⟩ := List.mem_map.mp h
  intro c hc
  rw [String.toList_ofList] at hc
  have hword := isWord_scanFrom hname c hc
  constructor <;>
  · rintro rfl
    revert hword
    decide

/-- The difference from the hooks of an earlier unit holds names of hooks. -/
lemma unbroken_between {text : String} {ss : List Signature} (hs : ∀ s ∈ ss, s.Wired) :
    ∀ n ∈ (SignatureDiff.between (HookScan.names text) (ss.map (·.name))).added ++
      (SignatureDiff.between (HookScan.names text) (ss.map (·.name))).removed, Unbroken n := by
  simp only [SignatureDiff.between, List.forall_mem_append, SignatureDiff.mem_sorted,
    List.mem_filter]
  refine ⟨fun n hn => ?_, fun n hn => unbroken_names hn.1⟩
  obtain ⟨s, hs', rfl⟩ := List.mem_map.mp hn.1
  exact (hs s hs').unbroken_name

/-! ### The listeners of a unit -/

section Listeners

variable {ss : List Signature} (hnames : (ss.map (·.name)).Nodup)
  (hfiring : ∀ s ∈ ss, s.capability ∈ Capability.firing)

/-- The listeners of some signatures, role by role. -/
def byRole (ss : List Signature) : List (Option String × Wiring) :=
  Capability.firing.flatMap fun c => (ofRole c ss).map fun s => (some (setupMethod c), wiringOf s)

lemma mem_byRole {a : Option String × Wiring} : a ∈ byRole ss ↔
    ∃ s ∈ ss, s.capability ∈ Capability.firing ∧ a = (some (setupMethod s.capability), wiringOf s) := by
  simp only [byRole, ofRole, List.mem_flatMap, List.mem_map, List.mem_filter, beq_iff_eq]
  constructor
  · rintro ⟨c, hc, s, ⟨hs, rfl⟩, rfl⟩
    exact ⟨s, hs, hc, rfl⟩
  · rintro ⟨s, hs, hc, rfl⟩
    exact ⟨s.capability, hc, s, ⟨hs, rfl⟩, rfl⟩

include hnames

lemma eq_of_name {s t : Signature} (hs : s ∈ ss) (ht : t ∈ ss) (h : s.name = t.name) : s = t :=
  List.inj_on_of_nodup_map hnames hs ht h

lemma nodup_byRole : ((byRole ss).map (·.2)).Nodup := by
  have hhooks : ((byRole ss).map (·.2.hook)).Nodup := by
    rw [byRole, List.map_flatMap, List.nodup_flatMap]
    constructor
    · intro c _
      rw [List.map_map]
      exact hnames.sublist (List.filter_sublist.map _)
    · refine (show Capability.firing.Nodup by decide).imp fun {c d} hcd n hc hd => hcd ?_
      simp only [ofRole, List.map_map, List.mem_map, List.mem_filter, beq_iff_eq,
        Function.comp_apply] at hc hd
      obtain ⟨s, ⟨hs, rfl⟩, rfl⟩ := hc
      obtain ⟨t, ⟨ht, rfl⟩, heq⟩ := hd
      rw [eq_of_name hnames hs ht heq.symm]
  exact .of_map Wiring.hook (by rwa [List.map_map])

end Listeners

/-! ### The accesses of a library -/

/-- The instances of a component type carry an event. -/
def carries (type event : String) : Bool :=
  (ComponentKind.ofLabel? type).bind ComponentKind.event? == some event

/-- The accesses under a class name whose type carries an event. -/
def accessesOfEvent (library group property event : String) : List Access :=
  ((accesses library).filter fun a => a.1 == some group && (a.2.property == property &&
    carries a.2.type event)).map (·.2)

lemma filter_flatMap_class {groups : List PanelGroup}
    (hnodup : (groups.map PanelGroup.className).Nodup) {group : PanelGroup} (hg : group ∈ groups)
    (p : Access → Bool) :
    (groups.flatMap fun g => (accessesOf g).map fun a => (some g.className, a)).filter
        (fun a => a.1 == some group.className && p a.2) =
      ((accessesOf group).filter p).map fun a => (some group.className, a) := by
  have hother : ∀ gs : List PanelGroup, group.className ∉ gs.map PanelGroup.className →
      (gs.flatMap fun g => (accessesOf g).map fun a => (some g.className, a)).filter
        (fun a => a.1 == some group.className && p a.2) = [] := by
    intro gs hgs
    refine List.filter_eq_nil_iff.mpr fun a ha hp => hgs ?_
    obtain ⟨h, hh, ha⟩ := List.mem_flatMap.mp ha
    obtain ⟨b, -, rfl⟩ := List.mem_map.mp ha
    rw [Bool.and_eq_true, beq_iff_eq, Option.some_inj] at hp
    exact List.mem_map.mpr ⟨h, hh, hp.1⟩
  have hself : ((accessesOf group).map fun a => (some group.className, a)).filter
      (fun a => a.1 == some group.className && p a.2) =
        ((accessesOf group).filter p).map fun a => (some group.className, a) := by
    have hhead : ∀ a ∈ accessesOf group,
        ((fun a : Option String × Access => a.1 == some group.className && p a.2) ∘
          fun a => (some group.className, a)) a = p a := by
      intro a _
      rw [Function.comp_apply, beq_self_eq_true, Bool.true_and]
    rw [List.filter_map, List.filter_congr hhead]
  obtain ⟨before, after, rfl⟩ := List.append_of_mem hg
  rw [List.map_append, List.map_cons, List.nodup_append, List.nodup_cons] at hnodup
  have hbefore := hother before fun hmem => hnodup.2.2 _ hmem _ List.mem_cons_self rfl
  rw [List.flatMap_append, List.flatMap_cons, List.filter_append, List.filter_append, hbefore,
    hself, hother after hnodup.2.1.1, List.append_nil, List.nil_append]

lemma filter_accessesOf {group : PanelGroup} (hdistinct : (group.elements.map (·.property)).Nodup)
    {e : GroupElement} (he : e ∈ group.elements) {event : String}
    (hcarries : carries e.accessor event = true) :
    (accessesOf group).filter (fun a => a.property == e.property && carries a.type event) =
      [accessOf e] := by
  have hpanel : carries Capability.nodeType event = false := rfl
  have hpanels : ((group.panel.map fun _ => panelAccess).toList).filter
      (fun a => a.property == e.property && carries a.type event) = [] := by
    refine List.filter_eq_nil_iff.mpr fun a ha => ?_
    obtain ⟨p, -, rfl⟩ := Option.map_eq_some_iff.mp (Option.mem_toList.mp ha)
    rw [panelAccess, hpanel, Bool.and_false]
    exact Bool.false_ne_true
  have helements : group.elements.filter
      ((fun a : Access => a.property == e.property && carries a.type event) ∘ accessOf) = [e] := by
    have hother : ∀ d ∈ group.elements,
        ((fun a : Access => a.property == e.property && carries a.type event) ∘ accessOf) d =
          (d == e) := by
      intro d hd
      rw [Bool.eq_iff_iff, beq_iff_eq, Function.comp_apply, accessOf, Bool.and_eq_true, beq_iff_eq]
      constructor
      · exact fun h => List.inj_on_of_nodup_map hdistinct hd he h.1
      · rintro rfl
        exact ⟨rfl, hcarries⟩
    rw [List.filter_congr hother, List.filter_beq, List.count_eq_one_of_mem hdistinct.of_map he]
    rfl
  rw [accessesOf, List.filter_append, hpanels, List.filter_map, helements]
  rfl

end LineReading

/-! ### Agreement -/

/-- What a machine unit wires is what a library gives access to; both are made for some hooks of
some references. -/
structure Agree (rs : List Reference) (ss : List Signature) (unit library : String) : Prop where
  /-- The unit wires the hooks and nothing else. -/
  wired : ∀ w, w ∈ (listeners "add_listener" unit).map (·.2) ↔ ∃ s ∈ ss, wiringOf s = w
  /-- What it adds it removes. -/
  unwired : ∀ w, w ∈ (listeners "remove_listener" unit).map (·.2) ↔
    w ∈ (listeners "add_listener" unit).map (·.2)
  added_once : ((listeners "add_listener" unit).map (·.2)).Nodup
  removed_once : ((listeners "remove_listener" unit).map (·.2)).Nodup
  setup : ∀ a ∈ listeners "add_listener" unit,
    ∃ s ∈ ss, s.name = a.2.hook ∧ a.1 = some (setupMethod s.capability)
  declared_once : ∀ a ∈ listeners "add_listener" unit, (scan unit).count a.2.hook = 1
  /-- The accessor leads to the one class of its name in the library and to the one access there by
  which an element with the event is fetched; it is the element that the hook is named after. -/
  accessible : ∀ a ∈ listeners "add_listener" unit, ∃ group property, ∃ r ∈ rs, ∃ s ∈ ss,
    s.name = a.2.hook ∧ s.element = r.name ∧ s.capability = r.capability ∧
      a.2.accessor = "UI." ++ group ++ "." ++ property ∧ (classes library).count group = 1 ∧
        carries r.capability.label a.2.event = true ∧
          accessesOfEvent library group property a.2.event =
            [⟨property, Text.quoted r.path, r.capability.label⟩]

section Agreement

variable (f : Forest) (g : Registry)

/-- The hooks of a registry. -/
def hooksOf : List Signature := (Signature.collect (PanelGroup.build f g).1).1

/-- The machine unit of a registry, with hints if there is an earlier unit, and with a date or
without. -/
def machineUnitOf (scene className library : String) (earlier : Option String)
    (date : Option Timestamp) : String :=
  machineText scene className library (hooksOf f g)
    (earlier.map fun text =>
      .between (HookScan.names text) ((hooksOf f g).map (·.name)))
    (date.map (·.text))

/-- The library of a registry, with a date or without. -/
def libraryOf (scene : String) (date : Option Timestamp) : String :=
  libraryText scene (PanelGroup.build f g).1 (date.map (·.text))

variable {f g}

lemma accessorTypeOf_firing {c : Capability} {h : HookSpec} (hc : c.hook? = some h)
    (k : Option Key) : f.accessorTypeOf c k = c.label ∧ carries c.label h.event = true := by
  cases c <;> cases hc <;> exact ⟨rfl, rfl⟩

section Units

variable {scene className : String} (library : String) (earlier : Option String)
  (date : Option Timestamp) (hscene : Unbroken scene) (hclass : Unbroken className)
include hscene hclass

lemma yields_machineUnitOf : Yields
    (machineLines scene className library (hooksOf f g)
      ((earlier.map fun text =>
        SignatureDiff.between (HookScan.names text) ((hooksOf f g).map (·.name))).getD .empty)
      (date.map (·.text))) ((hooksOf f g).map (·.name)) := by
  have hwired : ∀ s ∈ hooksOf f g, s.Wired := fun s hs => Signature.wired_collect hs
  refine yields_machineLines library hscene hclass hwired ?_ fun t ht => ?_
  · cases earlier with
    | none => exact List.forall_mem_nil _
    | some text => exact unbroken_between hwired
  · obtain ⟨d, -, rfl⟩ := Option.map_eq_some_iff.mp ht
    exact unbroken_date d

lemma scan_machineUnitOf :
    scan (machineUnitOf f g scene className library earlier date) = (hooksOf f g).map (·.name) :=
  (yields_machineUnitOf library earlier date hscene hclass).reads.scan_eq

lemma added_machineUnitOf :
    listeners "add_listener" (machineUnitOf f g scene className library earlier date) =
      byRole (hooksOf f g) :=
  added_machineText (yields_machineUnitOf library earlier date hscene hclass).unbroken
    fun _ hs => located_collect hs

lemma removed_machineUnitOf :
    listeners "remove_listener" (machineUnitOf f g scene className library earlier date) =
      (hooksOf f g).map fun s => (some "cleanup_listeners", wiringOf s) :=
  removed_machineText (yields_machineUnitOf library earlier date hscene hclass).unbroken
    fun _ hs => located_collect hs

end Units

lemma firing_hooksOf {s : Signature} (hs : s ∈ hooksOf f g) : s.capability ∈ Capability.firing := by
  obtain ⟨-, -, e, -, hhook, hrole, -, -⟩ := Signature.exists_of_mem_collect hs
  exact hrole ▸ Signature.capability_mem_firing hhook

lemma mem_added {w : Wiring} :
    w ∈ (byRole (hooksOf f g)).map (·.2) ↔ ∃ s ∈ hooksOf f g, wiringOf s = w := by
  simp only [List.mem_map, mem_byRole]
  constructor
  · rintro ⟨-, ⟨s, hs, -, rfl⟩, rfl⟩
    exact ⟨s, hs, rfl⟩
  · rintro ⟨s, hs, rfl⟩
    exact ⟨_, ⟨s, hs, firing_hooksOf hs, rfl⟩, rfl⟩

/-- The library gives access to the element of each hook. -/
lemma access_of_hook {scene : String} (date : Option Timestamp) (hscene : Unbroken scene)
    (hnames : ∀ r ∈ g.references, Unbroken r.name) {s : Signature} (hs : s ∈ hooksOf f g) :
    ∃ group property, ∃ r ∈ g.references, s.element = r.name ∧ s.capability = r.capability ∧
      s.accessor = "UI." ++ group ++ "." ++ property ∧
        (classes (libraryOf f g scene date)).count group = 1 ∧
          carries r.capability.label s.hook.event = true ∧
            accessesOfEvent (libraryOf f g scene date) group property s.hook.event =
              [⟨property, Text.quoted r.path, r.capability.label⟩] := by
  obtain ⟨group, hgroup, e, he, hhook, hrole, helement, haccessor⟩ :=
    Signature.exists_of_mem_collect hs
  have hmade := PanelGroup.build_madeOf hgroup
  obtain ⟨r, hr, hfor⟩ := hmade.elements e he
  obtain ⟨k, htype⟩ := hfor.accessor
  obtain rfl := hfor.reference
  obtain ⟨hlabel, hcarries⟩ := accessorTypeOf_firing (f := f) hhook k
  rw [← htype] at hlabel
  have hwritten : ∀ group ∈ (PanelGroup.build f g).1, Written group := fun _ h =>
    written_build hnames h
  have hdate : ∀ t, date.map (·.text) = some t → Unbroken t := by
    rintro t ht
    obtain ⟨d, -, rfl⟩ := Option.map_eq_some_iff.mp ht
    exact unbroken_date d
  have hclasses := classes_libraryText hscene hwritten hdate
  have haccesses := accesses_libraryText hscene hwritten hdate
  have hdistinct := PanelGroup.build_classNames (f := f) (g := g)
  refine ⟨group.className, e.property, e.reference, hr, helement, hrole, haccessor, ?_, hcarries, ?_⟩
  · rw [libraryOf, hclasses]
    exact List.count_eq_one_of_mem hdistinct (List.mem_map_of_mem hgroup)
  · rw [accessesOfEvent, libraryOf, haccesses, filter_flatMap_class hdistinct hgroup fun a =>
      a.property == e.property && carries a.type s.hook.event,
      filter_accessesOf hmade.distinct he (hlabel ▸ hcarries), accessOf, hlabel]
    rfl

/-- **Units agree with the library.** If no name of a registry is broken, its machine unit and its
library agree, whatever unit there was before and whenever they are made. -/
theorem units_agree {scene className : String} (library : String) (earlier : Option String)
    (date dateOfLibrary : Option Timestamp) (hscene : Unbroken scene) (hclass : Unbroken className)
    (hnames : ∀ r ∈ g.references, Unbroken r.name) :
    Agree g.references (hooksOf f g) (machineUnitOf f g scene className library earlier date)
      (libraryOf f g scene dateOfLibrary) := by
  have hdistinct : ((hooksOf f g).map (·.name)).Nodup := Signature.collect_names _
  have hadded := added_machineUnitOf (f := f) (g := g) library earlier date hscene hclass
  have hremoved := removed_machineUnitOf (f := f) (g := g) library earlier date hscene hclass
  have hpairs : ((hooksOf f g).map fun s => (some "cleanup_listeners", wiringOf s)).map (·.2) =
      (hooksOf f g).map wiringOf := List.map_map ..
  constructor
  case wired => exact fun w => hadded ▸ mem_added
  case unwired =>
    intro w
    rw [hadded, hremoved, mem_added, hpairs, List.mem_map]
  case added_once => exact hadded ▸ nodup_byRole hdistinct
  case removed_once =>
    rw [hremoved, hpairs]
    exact .of_map Wiring.hook (by rwa [List.map_map])
  case setup =>
    intro a ha
    obtain ⟨s, hs, -, rfl⟩ := mem_byRole.mp (hadded ▸ ha)
    exact ⟨s, hs, rfl, rfl⟩
  case declared_once =>
    intro a ha
    obtain ⟨s, hs, -, rfl⟩ := mem_byRole.mp (hadded ▸ ha)
    rw [scan_machineUnitOf library earlier date hscene hclass]
    exact List.count_eq_one_of_mem hdistinct (List.mem_map_of_mem hs)
  case accessible =>
    intro a ha
    obtain ⟨s, hs, -, rfl⟩ := mem_byRole.mp (hadded ▸ ha)
    obtain ⟨group, property, r, hr, helement, hrole, haccess⟩ :=
      access_of_hook dateOfLibrary hscene hnames hs
    exact ⟨group, property, r, hr, s, hs, rfl, helement, hrole, haccess⟩

/-- A registry of one button. -/
def playRegistry : Registry :=
  { Registry.blank .empty with
    store := [⟨"Main_Panel_Play_Button", "Menu/Main_Panel/Play_Button", .button, .never⟩]
    categories := [⟨"Button", [0]⟩] }

/-- One button is wired to one hook. -/
theorem units_agree_of_button :
    Unbroken "Menu" ∧ Unbroken "MenuHandler" ∧ (∀ r ∈ playRegistry.references, Unbroken r.name) ∧
      (hooksOf .empty playRegistry).map wiringOf =
        [⟨"UI.Main.Play_Button", "on_click", "on_main_panel_play_button_clicked"⟩] ∧
      Agree playRegistry.references (hooksOf .empty playRegistry)
        (machineUnitOf .empty playRegistry "Menu" "MenuHandler" "../menu.py" none none)
        (libraryOf .empty playRegistry "Menu" none) := by
  have hscene : Unbroken "Menu" := .literal _ rfl
  have hclass : Unbroken "MenuHandler" := .literal _ rfl
  have hnames : ∀ r ∈ playRegistry.references, Unbroken r.name :=
    List.forall_mem_singleton.mpr (.literal _ rfl)
  exact ⟨hscene, hclass, hnames, by decide +kernel,
    units_agree "../menu.py" none none none hscene hclass hnames⟩

end Agreement

end SceneBindings
