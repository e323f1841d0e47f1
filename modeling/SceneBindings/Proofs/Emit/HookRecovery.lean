import SceneBindings.Emit.PanelHandler
import SceneBindings.Proofs.Emit.Agreement
import SceneBindings.Proofs.Emit.MachineUnit

/-!
The hooks of all generated handler units. The machine unit, the user unit and the handler unit of a panel
declare the hooks of their signatures, and the scan takes nothing else for a hook: not the methods of the
templates, nor the names that stand in comments, texts and hints.
-/

namespace SceneBindings

open Emit HookScan LineReading Naming Text

/-! ### Signatures of any groups -/

/-- No name of an element holds a line break: neither the one that it is shown by nor the one that it is
accessed by. -/
def PanelGroup.Plain (g : PanelGroup) : Prop :=
  ∀ e ∈ g.elements, Unbroken e.reference.name ∧ Unbroken e.property

/-- The groups of a registry are plain when its names are: the names for access are identifiers. -/
lemma PanelGroup.plain_build {f : Forest} {r : Registry} (hnames : ∀ q ∈ r.references, Unbroken q.name) :
    ∀ g ∈ (PanelGroup.build f r).1, g.Plain := by
  intro g hg e he
  obtain ⟨q, hq, hfor⟩ := (build_madeOf hg).elements e he
  exact ⟨hfor.reference ▸ hnames q hq, property_build hg he⟩

namespace Signature

variable {groups : List PanelGroup} {s : Signature}

lemma wired_of_plain (hplain : ∀ g ∈ groups, g.Plain) (h : s ∈ (collect groups).1) : s.Wired := by
  obtain ⟨g, hg, e, he, hs⟩ := mem_collect h
  exact wired_ofElement (hplain g hg e he).2 hs

lemma unbroken_element (hplain : ∀ g ∈ groups, g.Plain) (h : s ∈ (collect groups).1) :
    Unbroken s.element := by
  obtain ⟨g, hg, e, he, -, -, helement, -⟩ := exists_of_mem_collect h
  rw [helement]
  exact (hplain g hg e he).1

lemma Wired.unbroken_verb (h : s.Wired) : Unbroken s.hook.verb := by
  obtain ⟨c, hc⟩ := h.hook
  generalize s.hook = h at hc
  cases c <;> cases hc <;> exact .literal _ rfl

lemma Wired.unbroken_argument (h : s.Wired) {a : String × String} (ha : s.hook.argument = some a) :
    Unbroken a.1 := by
  obtain ⟨c, hc⟩ := h.hook
  generalize s.hook = h at hc ha
  cases c <;> cases hc <;> cases ha <;> exact .literal _ rfl

end Signature

/-! ### Stubs -/

lemma quiet_stubLine {s : Signature} (hs : s.Wired) (he : Unbroken s.element) :
    Quiet (stubLine s) := by
  have hspace : Unbroken " " := .literal _ rfl
  have hclose : Unbroken "\")" := .literal _ rfl
  have hopenArgument : Unbroken " \x7b" := .literal _ rfl
  have hcloseArgument : Unbroken "\x7d\")" := .literal _ rfl
  have hsaid : Unbroken (s.element ++ (" " ++ s.hook.verb)) := he.append (hspace.append hs.unbroken_verb)
  rw [stubLine]
  cases ha : s.hook.argument with
  | none =>
    have hline := Quiet.append "        print(\"".toList (hsaid.append hclose) rfl
    simpa [String.append_assoc] using hline
  | some a =>
    have hargument := hs.unbroken_argument ha
    have hline := Quiet.append "        print(f\"".toList
      (hsaid.append (hopenArgument.append (hargument.append hcloseArgument))) rfl
    simpa [String.append_assoc] using hline

lemma yields_stubHook {s : Signature} (hs : s.Wired) (he : Unbroken s.element) :
    Yields (stubHook s) [s.name] := by
  have hbody : ∀ l ∈ [stubLine s, ""], Quiet l := by
    simp only [List.forall_mem_cons]
    exact ⟨quiet_stubLine hs he, .literal [] rfl, nofun⟩
  exact (yields_defLine hs).append (.quiet hbody)

section Units

variable {scene className : String} {ss : List Signature} (hclass : Unbroken className)
  (hs : ∀ s ∈ ss, s.Wired) (he : ∀ s ∈ ss, Unbroken s.element)

/-! ### The user unit -/

include hclass hs he in
lemma scan_userText {example? : Option String} (hexample : ∀ e, example? = some e → Unbroken e) :
    scan (userText scene className ss example?) = ss.map (·.name) := by
  have hdot : Unbroken "." := .literal _ rfl
  have hclose : Unbroken ")" := .literal _ rfl
  have hmodule : Unbroken (Name.sanitize scene) := .sanitize scene
  have hshown : Unbroken ((example?.filter fun e => !e.isEmpty).getD "MainMenu") := by
    cases hfound : example?.filter fun e => !e.isEmpty with
    | none => exact .literal _ rfl
    | some e => exact hexample e (Option.eq_some_of_filter_eq_some hfound)
  have htitle : Quiet ("# Handler for: " ++ Name.sanitize scene) := .append _ hmodule rfl
  have hload : Quiet ("_generated = load_generated_unit(__file__, " ++
      (quoted (className ++ ".g.py") ++ ")")) := .append _ ((Unbroken.quoted _).append hclose) rfl
  have hgenerated : Quiet (Name.sanitize scene ++ (" = _generated." ++ Name.sanitize scene)) := by
    have hline := quiet_module scene [] " = _generated.".toList (by decide) (by decide) hmodule
    simpa using hline
  have hhead : Quiet ("class " ++ (className ++ ("(_generated." ++ (className ++ "Base):")))) :=
    .append _ (hclass.append ((Unbroken.literal _ rfl).append (hclass.append (.literal _ rfl)))) rfl
  have hhint : Quiet ("        # Example: " ++ (Name.sanitize scene ++ (".UI." ++
      ((example?.filter fun e => !e.isEmpty).getD "MainMenu" ++ ".show()")))) :=
    .append _ (hmodule.append ((Unbroken.literal _ rfl).append (hshown.append (.literal _ rfl)))) rfl
  rw [← List.append_nil (ss.map (·.name)), ← List.nil_append (ss.map (·.name)), userText]
  refine Reads.scan_eq (Yields.reads (.append (.append (.quiet ?_) ?_) (.quiet ?_)))
  · simp only [List.forall_mem_cons, String.append_assoc]
    and_intros
    all_goals first | with_reducible assumption | exact .literal _ rfl | exact nofun
  · exact .flatMap fun s hmem => yields_stubHook (hs s hmem) (he s hmem)
  · simp only [List.forall_mem_cons]
    exact ⟨.literal _ rfl, .literal _ rfl, nofun⟩

/-! ### The unit of a panel -/

section Panel

variable {panel : Reference} {groupClass : String} (hgroup : Unbroken groupClass)
  (hname : Unbroken panel.name)

include hname in
lemma quiet_panelHeader {stamp : Option String} (ht : ∀ t, stamp = some t → Unbroken t) :
    ∀ l ∈ panelHeader scene panel stamp, Quiet l := by
  have hstamp : ∀ l ∈ stampLine stamp, Quiet l := by
    cases stamp with
    | none => exact nofun
    | some t => exact List.forall_mem_singleton.mpr (.append _ (ht t rfl) rfl)
  simp only [panelHeader, List.forall_mem_append, List.forall_mem_cons]
  exact ⟨⟨⟨.literal _ rfl, .literal _ rfl, .append _ (.sanitize scene) rfl, .append _ hname rfl,
    nofun⟩, hstamp⟩, .literal _ rfl, .literal _ rfl, .literal _ rfl, .literal _ rfl, nofun⟩

/-- A line that calls a method of the group's accessors. -/
lemma quiet_uiLine (scene : String) {m : String} (hm : Unbroken m) :
    Quiet ("        " ++ (Name.sanitize scene ++ (".UI." ++ m))) := by
  have hline := quiet_module scene "        ".toList ".UI.".toList (by decide) (by decide) hm
  simpa using hline

include hclass hgroup hname in
lemma quiet_panelOpening (hscene : Unbroken scene) (library : String) :
    ∀ l ∈ panelOpening scene className library (Name.sanitize scene ++ ".UI." ++ groupClass) panel,
      Quiet l := by
  have hclose : Unbroken ")" := .literal _ rfl
  have htitle : Quiet ("\"\"\"Handles UI interactions for the " ++ (panel.name ++
      (" panel of " ++ (scene ++ ".\"\"\"")))) :=
    .append _ (hname.append ((Unbroken.literal _ rfl).append (hscene.append (.literal _ rfl)))) rfl
  have hload : Quiet (Name.sanitize scene ++ (" = load_generated_unit(__file__, " ++
      (quoted library ++ ")"))) := by
    have hline := quiet_module scene [] " = load_generated_unit(__file__, ".toList (by decide)
      (by decide) ((Unbroken.quoted library).append hclose)
    simpa using hline
  have hpath : Quiet ("PANEL_PATH = " ++ quoted panel.path) := .append _ (.quoted _) rfl
  have hhead : Quiet ("class " ++ (className ++ ":")) := .append _ (hclass.append (.literal _ rfl)) rfl
  have hdoc : Quiet ("    \"\"\"Listeners, hooks and visibility of " ++ (panel.name ++ "\"\"\"")) :=
    .append _ (hname.append (.literal _ rfl)) rfl
  have hshown : Quiet ("        return " ++ (Name.sanitize scene ++ (".UI." ++
      (groupClass ++ ".is_visible")))) :=
    .append _ ((Unbroken.sanitize scene).append ((Unbroken.literal _ rfl).append
      (hgroup.append (.literal _ rfl)))) rfl
  have hmissing : Quiet ("            print(" ++ (quoted ("[" ++ (className ++ ("] Panel '" ++
      (panel.name ++ "' is not registered")))) ++ ")")) :=
    .append _ ((Unbroken.quoted _).append hclose) rfl
  have huse : Quiet ("        " ++ (Name.sanitize scene ++ ".UI.initialize(self.registry)")) := by
    have hline := quiet_uiLine scene (.literal "initialize(self.registry)".toList rfl)
    simpa using hline
  have hdone : Quiet ("        print(\"[" ++ (className ++ "] Initialized\")")) :=
    .append _ (hclass.append (.literal _ rfl)) rfl
  simp only [panelOpening, List.forall_mem_cons, String.append_assoc]
  and_intros
  all_goals first | with_reducible assumption | exact .literal _ rfl | exact nofun

include hgroup in
lemma quiet_panelClosing :
    ∀ l ∈ panelClosing (Name.sanitize scene ++ ".UI." ++ groupClass), Quiet l := by
  have hcall : ∀ m, Unbroken m → Quiet ("        " ++ (Name.sanitize scene ++ (".UI." ++
      (groupClass ++ m)))) := fun m hm => quiet_uiLine scene (hgroup.append hm)
  simp only [panelClosing, List.forall_mem_cons, String.append_assoc]
  and_intros
  all_goals first | exact .literal _ rfl | exact hcall _ (.literal _ rfl) | exact nofun

include hs he in
lemma yields_stubs : Yields (linesIf (!ss.isEmpty)
    (["    # region Hooks", ""] ++ ss.flatMap stubHook ++ ["    # endregion", ""]))
    (ss.map (·.name)) := by
  cases hempty : ss.isEmpty with
  | true =>
    rw [List.isEmpty_iff.mp hempty]
    exact .quiet nofun
  | false =>
    have hbefore : ∀ l ∈ ["    # region Hooks", ""], Quiet l := by
      simp only [List.forall_mem_cons]
      exact ⟨.literal _ rfl, .literal [] rfl, nofun⟩
    have hafter : ∀ l ∈ ["    # endregion", ""], Quiet l := by
      simp only [List.forall_mem_cons]
      exact ⟨.literal _ rfl, .literal [] rfl, nofun⟩
    have hstubs : Yields (ss.flatMap stubHook) (ss.map (·.name)) :=
      .flatMap fun s hmem => yields_stubHook (hs s hmem) (he s hmem)
    have hall := ((Yields.quiet hbefore).append hstubs).append (.quiet hafter)
    rwa [List.nil_append, List.append_nil] at hall

include hclass hgroup hname hs he in
lemma scan_panelHandlerText (hscene : Unbroken scene) (library : String) {stamp : Option String}
    (ht : ∀ t, stamp = some t → Unbroken t) :
    scan (panelHandlerText scene className groupClass library panel ss stamp) = ss.map (·.name) := by
  have hnone : ∀ l ∈ linesIf ss.isEmpty
      ["    # No event-firing elements are registered under this panel"], Quiet l :=
    fun l hl => List.forall_mem_singleton.mpr (.literal _ rfl) l (mem_of_mem_linesIf hl)
  obtain ⟨hopening, hclosing, hcleanup⟩ := quiet_between
  rw [← List.append_nil (ss.map (·.name)), ← List.nil_append (ss.map (·.name)), panelHandlerText]
  refine Reads.scan_eq (Yields.reads
    (.append (.append (.quiet ?_) (yields_stubs hs he)) (.quiet (quiet_panelClosing hgroup))))
  simp only [List.forall_mem_append]
  refine ⟨⟨⟨⟨⟨⟨⟨⟨⟨quiet_panelHeader hname ht, quiet_panelOpening hclass hgroup hname hscene library⟩,
    hnone⟩, ?_⟩, quiet_calls _⟩, hclosing⟩, quiet_setups scene hs ?_⟩, hcleanup⟩,
    quiet_removes scene hs⟩, ?_⟩
  · simp only [List.forall_mem_cons]
    exact ⟨.literal _ rfl, .literal _ rfl, .literal _ rfl, nofun⟩
  · exact fun c hc => (List.mem_filter.mp hc).1
  · simp only [List.forall_mem_cons]
    exact ⟨.literal _ rfl, .literal [] rfl, .literal _ rfl, .literal [] rfl, nofun⟩

end Panel

end Units

/-! ### All units -/

/-- The scan finds the hooks of the signatures in the text, in their order, and no others. -/
def Recovers (text : String) (ss : List Signature) : Prop :=
  scan text = ss.map (·.name) ∧ ∀ n, n ∈ HookScan.names text ↔ ∃ s ∈ ss, s.name = n

lemma recovers_of_scan {text : String} {ss : List Signature} (h : scan text = ss.map (·.name)) :
    Recovers text ss := by
  refine ⟨h, fun n => ?_⟩
  rw [HookScan.names, SignatureDiff.mem_sorted, h, List.mem_map]

/-- **The scan recovers the hooks of every generated unit.** Whatever the scene, the classes, the panel and
the elements are called, as long as no name holds a line break, the machine unit with any hints, the user
unit with any example and the unit of a panel declare just the hooks that were collected. -/
theorem units_recover {groups : List PanelGroup} {scene className : String} {panel : Reference}
    {diff : Option SignatureDiff} {example? : Option String} (hplain : ∀ g ∈ groups, g.Plain)
    (hscene : Unbroken scene) (hclass : Unbroken className) (hname : Unbroken panel.name)
    (hdiff : ∀ d, diff = some d → ∀ n ∈ d.added ++ d.removed, Unbroken n)
    (hexample : ∀ e, example? = some e → Unbroken e) (group : PanelGroup) (library : String)
    (date : Option Timestamp) :
    let ss := (Signature.collect groups).1
    let stamp := date.map Timestamp.text
    Recovers (machineText scene className library ss diff stamp) ss ∧
      Recovers (userText scene className ss example?) ss ∧
      Recovers (panelHandlerText scene className group.className library panel ss stamp) ss := by
  intro ss stamp
  have hs : ∀ s ∈ ss, s.Wired := fun s h => Signature.wired_of_plain hplain h
  have he : ∀ s ∈ ss, Unbroken s.element := fun s h => Signature.unbroken_element hplain h
  have ht : ∀ t, stamp = some t → Unbroken t := by
    intro t h
    obtain ⟨d, -, rfl⟩ := Option.map_eq_some_iff.mp h
    exact unbroken_date d
  have hd : ∀ n ∈ (diff.getD .empty).added ++ (diff.getD .empty).removed, Unbroken n := by
    cases diff with
    | none => exact nofun
    | some d => exact hdiff d rfl
  have hgroup : Unbroken group.className := .escapeKeyword_sanitize group.key
  refine ⟨recovers_of_scan ?_, recovers_of_scan (scan_userText hclass hs he hexample),
    recovers_of_scan (scan_panelHandlerText hclass hs he hgroup hname hscene library ht)⟩
  rw [machineText_eq]
  exact (yields_machineLines library hscene hclass hs hd ht).reads.scan_eq

/-- The hook of one button is found in all three units, whose hints and panel have the shape of a hook. -/
theorem units_recover_of_button :
    let groups := (PanelGroup.build .empty playRegistry).1
    let ss := (Signature.collect groups).1
    let panel : Reference := ⟨"def on_panel(self):", "Menu/Main_Panel", .panel, .never⟩
    let diff : SignatureDiff := ⟨["on_added"], ["def on_removed(self):"]⟩
    let stamp := (none : Option Timestamp).map Timestamp.text
    (∀ g ∈ groups, g.Plain) ∧ Unbroken "Menu" ∧ Unbroken "MenuHandler" ∧ Unbroken panel.name ∧
      (∀ n ∈ diff.added ++ diff.removed, Unbroken n) ∧ Unbroken "def on_example(self):" ∧
      ss.map (·.name) = ["on_main_panel_play_button_clicked"] ∧
      Recovers (machineText "Menu" "MenuHandler" "../menu.py" ss (some diff) stamp) ss ∧
      Recovers (userText "Menu" "MenuHandler" ss (some "def on_example(self):")) ss ∧
      Recovers (panelHandlerText "Menu" "MenuHandler" (PanelGroup.className ⟨"Main", some panel, []⟩)
        "../menu.py" panel ss stamp) ss := by
  intro groups ss panel diff stamp
  have hplain : ∀ g ∈ groups, g.Plain :=
    PanelGroup.plain_build (List.forall_mem_singleton.mpr (Unbroken.literal _ rfl))
  have hscene : Unbroken "Menu" := .literal _ rfl
  have hclass : Unbroken "MenuHandler" := .literal _ rfl
  have hname : Unbroken panel.name := .literal _ rfl
  have hdiff : ∀ n ∈ diff.added ++ diff.removed, Unbroken n := by
    simp only [diff, List.cons_append, List.nil_append, List.forall_mem_cons]
    exact ⟨.literal _ rfl, .literal _ rfl, nofun⟩
  have hexample : Unbroken "def on_example(self):" := .literal _ rfl
  exact ⟨hplain, hscene, hclass, hname, hdiff, hexample, by decide +kernel,
    units_recover hplain hscene hclass hname (fun d hd => Option.some.inj hd ▸ hdiff)
      (fun e he => Option.some.inj he ▸ hexample) ⟨"Main", some panel, []⟩ "../menu.py" none⟩

end SceneBindings
