import SceneBindings.Proofs.Emit.LineReading
import SceneBindings.Proofs.Emit.MachineUnit

/-!
The listeners of a machine unit. Each signature is wired once in the setup method of its role and
once in the cleanup, and no other line of the unit reads as one that wires.
-/

namespace SceneBindings.LineReading

open Emit HookScan Naming Text

variable {module : String} {s : Signature}

/-- The listeners that a unit adds or removes, according to the method that it calls, each under the
method that the call stands in. -/
def listeners (called unit : String) : List (Option String × Wiring) :=
  readUnder methodHead? (wiring? called) none (linesOf unit)

/-! ### Lines that wire nothing -/

/-- A line that no call of a method of a listener is read from. -/
structure Unwired (l : String) : Prop where
  wiring : ∀ method, wiring? method l = none

namespace Unwired

lemma of_indented {l : String} (h : indented? ".UI." l = none) : Unwired l where
  wiring method := by rw [wiring?, h, Option.bind_none]

lemma literal (cs : List Char)
    (h : (expect? indent cs).bind (identifierThen? ".UI.") = none) :
    Unwired (String.ofList cs) := .of_indented (indented?_ofList h)

lemma append (cs : List Char) (m : String) (h : cannotBegin ".UI." cs = true) :
    Unwired (String.ofList cs ++ m) := .of_indented (indented?_ofList_append h m)

lemma append_literal (cs ds : List Char) (m : String)
    (h : cannotBegin ".UI." (cs ++ ds) = true) :
    Unwired (String.ofList cs ++ (String.ofList ds ++ m)) := by
  have hline := append (cs ++ ds) m h
  rwa [String.ofList_append, String.append_assoc] at hline

end Unwired

lemma isIdentifier_sanitize (name : String) : IsIdentifier (Name.sanitize name) := by
  intro c hc
  rw [Name.sanitize, Name.ofChars, String.toList_ofList] at hc
  exact isIdentifierChar_sanitize hc

lemma sanitize_toList_ne_nil (name : String) : (Name.sanitize name).toList ≠ [] := by
  rw [Name.sanitize, Name.ofChars, String.toList_ofList]
  exact sanitize_ne_nil _

lemma unwired_header (scene className : String) (stamp : Option String) :
    ∀ l ∈ machineHeader scene className stamp, Unwired l := by
  have hstamp : ∀ l ∈ stampLine stamp, Unwired l := by
    cases stamp with
    | none => exact List.forall_mem_nil _
    | some t => exact List.forall_mem_singleton.mpr (.append _ _ rfl)
  simp only [machineHeader, List.forall_mem_append, List.forall_mem_cons, String.append_assoc]
  exact ⟨⟨⟨.literal _ rfl, .literal _ rfl, .append _ _ rfl, List.forall_mem_nil _⟩, hstamp⟩,
    .literal _ rfl, .literal _ rfl, .append _ _ rfl, .literal _ rfl, List.forall_mem_nil _⟩

lemma unwired_hints (d : SignatureDiff) (userFile : String) :
    ∀ l ∈ hintLines d userFile, Unwired l := by
  intro l hl
  simp only [hintLines, List.mem_append, String.append_assoc] at hl
  rcases hl with ((hl | hl) | hl) | hl
  · simp only [List.mem_cons, List.not_mem_nil, or_false] at hl
    rcases hl with rfl | rfl
    · exact .literal _ rfl
    · exact .literal _ rfl
  · have hl := mem_of_mem_linesIf hl
    simp only [List.cons_append, List.nil_append, List.mem_cons, List.mem_map] at hl
    rcases hl with rfl | rfl | ⟨n, -, rfl⟩
    · exact .literal _ rfl
    · exact .append _ _ rfl
    · exact .append _ _ rfl
  · have hl := mem_of_mem_linesIf hl
    simp only [List.cons_append, List.nil_append, List.mem_cons, List.mem_map] at hl
    rcases hl with rfl | rfl | ⟨n, -, rfl⟩
    · exact .literal _ rfl
    · exact .append _ _ rfl
    · exact .append _ _ rfl
  · rw [List.mem_singleton.mp hl]
    exact .literal _ rfl

/-- The module is used, but not to wire. -/
lemma unwired_initialize (scene : String) :
    Unwired ("        " ++ (Name.sanitize scene ++ ".UI.initialize(self.registry)")) := by
  have hline : "        " ++ (Name.sanitize scene ++ ".UI.initialize(self.registry)") =
      "        " ++ Name.sanitize scene ++ ".UI." ++ "initialize(self.registry)" := by
    simp only [String.append_assoc]
    rfl
  have hgroup : identifierThen? "." "initialize(self.registry)".toList = none := by decide
  refine ⟨fun method => ?_⟩
  rw [wiring?, hline, indented?_self (isIdentifier_sanitize scene) rfl (by decide), Option.bind_some,
    call?, hgroup]
  rfl

lemma unwired_opening (scene className library : String) :
    ∀ l ∈ machineOpening scene className library, Unwired l := by
  have hload : Unwired (Name.sanitize scene ++ (" = load_generated_unit(__file__, " ++
      (quoted library ++ ")"))) :=
    .of_indented (indented?_identifier_append (isIdentifier_sanitize scene)
      (sanitize_toList_ne_nil scene) _ _)
  have huse := unwired_initialize scene
  simp only [machineOpening, List.forall_mem_cons, String.append_assoc]
  and_intros
  · exact .append _ _ rfl
  · exact .literal _ rfl
  · exact .literal _ rfl
  · exact .literal _ rfl
  · exact hload
  · exact .literal _ rfl
  · exact .literal _ rfl
  · exact .append _ _ rfl
  · exact .append _ _ rfl
  · exact .literal _ rfl
  · exact .append _ _ rfl
  all_goals first | exact .literal _ rfl | exact huse | exact List.forall_mem_nil _

lemma unwired_callSetup {c : Capability} (hc : c ∈ Capability.firing) : Unwired (callSetup c) := by
  simp only [Capability.firing, List.mem_cons, List.not_mem_nil, or_false] at hc
  rw [callSetup, String.append_assoc, setupMethod]
  rcases hc with rfl | rfl | rfl | rfl | rfl <;> exact .append_literal _ _ "()" rfl

lemma unwired_setupHead (c : Capability) : Unwired ("    def " ++ setupMethod c ++ "(self):") := by
  rw [String.append_assoc]
  exact .append _ _ rfl

lemma unwired_emptyHook (added : List String) (userFile : String) (s : Signature) :
    ∀ l ∈ emptyHook added userFile s, Unwired l := by
  have hmark : ∀ l ∈ linesIf (added.contains s.name)
      ["    # ✨ NEW - Implement this in " ++ userFile], Unwired l := by
    intro l hl
    rw [List.mem_singleton.mp (mem_of_mem_linesIf hl)]
    exact .append _ _ rfl
  have hdef : Unwired (defLine s) := by
    rw [defLine]
    simp only [String.append_assoc]
    exact .append _ _ rfl
  simp only [emptyHook, List.forall_mem_append, List.forall_mem_cons]
  exact ⟨hmark, hdef, .literal _ rfl, .literal [] rfl, List.forall_mem_nil _⟩

lemma unwired_between : (∀ l ∈ setupOpening, Unwired l) ∧ (∀ l ∈ setupClosing, Unwired l) ∧
    ∀ l ∈ cleanupOpening, Unwired l := by
  simp only [setupOpening, setupClosing, cleanupOpening, List.forall_mem_cons]
  and_intros
  all_goals first | exact .literal _ rfl | exact List.forall_mem_nil _

/-! ### Lines that wire -/

/-- What the emitters know of a signature: its parts are identifiers. -/
structure Located (s : Signature) : Prop where
  accessor : ∃ group property, IsIdentifier group ∧ IsIdentifier property ∧
    s.accessor = "UI." ++ group ++ "." ++ property
  event : IsIdentifier s.hook.event
  name : IsIdentifier s.name

def wiringOf (s : Signature) : Wiring := ⟨s.accessor, s.hook.event, s.name⟩

/-- Up to the event all wiring lines of a signature read the same. -/
lemma wiring?_wireLine (hs : Located s) (hmodule : IsIdentifier module) (method called : String) :
    wiring? method (wireLine called module s) =
      (expect? ("." ++ method ++ "(self.").toList
        ("." ++ (called ++ ("(self." ++ (s.name ++ ")")))).toList).bind fun r =>
          (identifierThen? ")" r).bind fun hook =>
            if hook.2.isEmpty then some ⟨s.accessor, s.hook.event, String.ofList hook.1⟩
            else none := by
  obtain ⟨group, property, hgroup, hproperty, haccessor⟩ := hs.accessor
  obtain ⟨more, hmore⟩ : ∃ more : List Char,
      ("." ++ (called ++ ("(self." ++ (s.name ++ ")")))).toList = '.' :: more :=
    ⟨(called ++ ("(self." ++ (s.name ++ ")"))).toList, by rw [String.toList_append]; rfl⟩
  have hline : wireLine called module s = "        " ++ module ++ ".UI." ++ (group ++ ("." ++
      (property ++ ("." ++ (s.hook.event ++ ("." ++ (called ++ ("(self." ++ (s.name ++ ")"))))))))) := by
    rw [wireLine_eq, haccessor]
    simp only [String.append_assoc]
    rfl
  have hgroup := fun r => hgroup.then? (c := '.') (p := ".") (by decide) rfl r
  have hproperty := fun r => hproperty.then? (c := '.') (p := ".") (by decide) rfl r
  have hevent : ∀ p, identifierThen? p (s.hook.event.toList ++ '.' :: more) =
      (expect? p.toList ('.' :: more)).map fun r => (s.hook.event.toList, r) := by
    intro p
    rw [identifierThen?, hs.event.takeWhile (by decide), hs.event.dropWhile (by decide)]
  have hcall : (group ++ ("." ++ (property ++ ("." ++ (s.hook.event ++ ("." ++ (called ++ ("(self." ++
      (s.name ++ ")"))))))))).toList = group.toList ++ (".".toList ++ (property.toList ++
        (".".toList ++ (s.hook.event.toList ++ '.' :: more)))) := by
    rw [← hmore]
    simp only [String.toList_append]
  rw [hmore, haccessor, wiring?, hline, indented?_self hmodule rfl (by decide), Option.bind_some,
    hcall]
  simp only [Option.bind_eq_bind, Option.bind_some, call?, hgroup, hproperty, hevent,
    Option.bind_map, String.ofList_toList, Function.comp_def]

lemma wiring?_self (hs : Located s) (hmodule : IsIdentifier module) (method : String) :
    wiring? method (wireLine method module s) = some (wiringOf s) := by
  have hcall : ("." ++ (method ++ ("(self." ++ (s.name ++ ")")))).toList =
      ("." ++ method ++ "(self.").toList ++ (s.name.toList ++ (")".toList ++ [])) := by
    simp only [String.toList_append, List.append_assoc, List.append_nil]
  have hname : identifierThen? ")" (s.name.toList ++ (")".toList ++ [])) =
      some (s.name.toList, []) := hs.name.then? (by decide) rfl []
  rw [wiring?_wireLine hs hmodule, hcall, expect?_append, Option.bind_some, hname, Option.bind_some,
    String.ofList_toList]
  rfl

lemma wiring?_other (hs : Located s) (hmodule : IsIdentifier module) {method called : String}
    {c d : Char} {m n : List Char} (hm : method.toList = c :: m) (hn : called.toList = d :: n)
    (hcd : c ≠ d) : wiring? method (wireLine called module s) = none := by
  have hnone : expect? ("." ++ method ++ "(self.").toList
      ("." ++ (called ++ ("(self." ++ (s.name ++ ")")))).toList = none := by
    simp only [String.toList_append, hm, hn]
    exact if_neg hcd
  rw [wiring?_wireLine hs hmodule, hnone, Option.bind_none]

/-! ### The unit -/

/-- What stands before the setup methods of a machine unit. -/
def beforeSetup (scene className library : String) (d : SignatureDiff) (stamp : Option String) :
    List String :=
  machineHeader scene className stamp ++
    linesIf d.hasChanges (hintLines d (className ++ ".py")) ++
    machineOpening scene className library ++
    setupOpening ++ Capability.firing.map callSetup ++ setupClosing

/-- What stands after the lines of a machine unit that remove listeners. -/
def afterRemoval (className : String) (ss : List Signature) (d : SignatureDiff) : List String :=
  ["        self.cleanup_custom_listeners()",
      "        self._listeners_setup = False",
      "",
      "    def cleanup_custom_listeners(self):",
      "        \"\"\"Remove listeners added by hand in initialize_ui().\"\"\"",
      "",
      "    # endregion",
      "",
      "    # region Hooks",
      ""] ++
    ss.flatMap (emptyHook d.added (className ++ ".py")) ++
    ["    # endregion"]

lemma machineLines_eq (scene className library : String) (ss : List Signature) (d : SignatureDiff)
    (stamp : Option String) :
    machineLines scene className library ss d stamp = beforeSetup scene className library d stamp ++
      (Capability.firing.flatMap (setupLines (Name.sanitize scene) ss) ++
        (cleanupOpening ++ (ss.map (removeLine (Name.sanitize scene)) ++
          afterRemoval className ss d))) := by
  simp only [machineLines, beforeSetup, afterRemoval, List.append_assoc]

lemma unwired_beforeSetup (scene className library : String) (d : SignatureDiff)
    (stamp : Option String) : ∀ l ∈ beforeSetup scene className library d stamp, Unwired l := by
  have hhints : ∀ l ∈ linesIf d.hasChanges (hintLines d (className ++ ".py")), Unwired l :=
    fun l hl => unwired_hints d _ l (mem_of_mem_linesIf hl)
  have hcalls : ∀ l ∈ Capability.firing.map callSetup, Unwired l := by
    intro l hl
    obtain ⟨c, hc, rfl⟩ := List.mem_map.mp hl
    exact unwired_callSetup hc
  obtain ⟨hopening, hclosing, -⟩ := unwired_between
  simp only [beforeSetup, List.forall_mem_append]
  exact ⟨⟨⟨⟨⟨unwired_header scene className stamp, hhints⟩, unwired_opening scene className library⟩,
    hopening⟩, hcalls⟩, hclosing⟩

lemma unwired_afterRemoval (className : String) (ss : List Signature) (d : SignatureDiff) :
    ∀ l ∈ afterRemoval className ss d, Unwired l := by
  have hhooks : ∀ l ∈ ss.flatMap (emptyHook d.added (className ++ ".py")), Unwired l := by
    intro l hl
    obtain ⟨s, -, hl⟩ := List.mem_flatMap.mp hl
    exact unwired_emptyHook _ _ s l hl
  have hlast : ∀ l ∈ ["    # endregion"], Unwired l :=
    List.forall_mem_singleton.mpr (.literal _ rfl)
  rw [afterRemoval, List.forall_mem_append, List.forall_mem_append]
  refine ⟨⟨?_, hhooks⟩, hlast⟩
  simp only [List.forall_mem_cons]
  and_intros
  all_goals first | exact .literal _ rfl | exact List.forall_mem_nil _

lemma methodHead?_setup {c : Capability} (hc : c ∈ Capability.firing) :
    methodHead? ("    def " ++ setupMethod c ++ "(self):") = some (setupMethod c) := by
  have hname : IsIdentifier (setupMethod c) := by
    simp only [Capability.firing, List.mem_cons, List.not_mem_nil, or_false] at hc
    refine List.all_eq_true.mp ?_
    rcases hc with rfl | rfl | rfl | rfl | rfl <;> decide
  have hargs : "(self):" = String.ofList ['('] ++ "self):" := rfl
  rw [methodHead?, hargs, ← String.append_assoc, nameAfter?_append _ hname (by decide)]

lemma methodHead?_wireLine (method module : String) (s : Signature) :
    methodHead? (wireLine method module s) = none := by
  have hnone : expect? "    def ".toList (wireLine method module s).toList = none := by
    rw [wireLine_eq, String.toList_append]
    exact expect?_append_eq_none (by decide) (by decide) _
  rw [methodHead?, nameAfter?, hnone, Option.map_none]

lemma filterMap_map_of_read {α β : Type} {f : α → String} {read? : String → Option β} {g : α → β}
    {as : List α} (h : ∀ a ∈ as, read? (f a) = some (g a)) :
    (as.map f).filterMap read? = as.map g := by
  induction as with
  | nil => rfl
  | cons a as ih =>
    rw [List.forall_mem_cons] at h
    rw [List.map_cons, List.filterMap_cons, h.1, List.map_cons, ih h.2]

section Sections

variable {ss : List Signature} (hs : ∀ s ∈ ss, Located s) (hmodule : IsIdentifier module)
include hs hmodule

lemma added_setupLines {c : Capability} (hc : c ∈ Capability.firing) (head : Option String) :
    readUnder methodHead? (wiring? "add_listener") head (setupLines module ss c) =
      (ofRole c ss).map fun s => (some (setupMethod c), wiringOf s) := by
  have hlines : ∀ l ∈ (if (ofRole c ss).isEmpty then ["        pass"]
      else (ofRole c ss).map (addLine module)) ++ [""], methodHead? l = none := by
    rw [List.forall_mem_append]
    refine ⟨?_, List.forall_mem_singleton.mpr (by decide)⟩
    split
    · exact List.forall_mem_singleton.mpr (by decide)
    · intro l hl
      obtain ⟨s, -, rfl⟩ := List.mem_map.mp hl
      exact methodHead?_wireLine _ _ s
  have hread : ((if (ofRole c ss).isEmpty then ["        pass"]
      else (ofRole c ss).map (addLine module)) ++ [""]).filterMap
        (wiring? "add_listener") = (ofRole c ss).map wiringOf := by
    have hempty : wiring? "add_listener" "" = none := (Unwired.literal [] rfl).wiring _
    have hpass : wiring? "add_listener" "        pass" = none :=
      (Unwired.literal _ rfl).wiring _
    rw [List.filterMap_append, List.filterMap_cons, hempty, List.filterMap_nil, List.append_nil]
    split
    · next hnil =>
      rw [List.isEmpty_iff.mp hnil, List.filterMap_cons, hpass]
      rfl
    · exact filterMap_map_of_read fun s hmem =>
        wiring?_self (hs s (List.mem_filter.mp hmem).1) hmodule "add_listener"
  rw [setupLines, List.cons_append, readUnder_of_head (methodHead?_setup hc),
    readUnder_of_no_head hlines, hread, List.map_map]
  rfl

lemma added_setups {cs : List Capability} (hcs : ∀ c ∈ cs, c ∈ Capability.firing)
    (head : Option String) :
    readUnder methodHead? (wiring? "add_listener") head (cs.flatMap (setupLines module ss)) =
      cs.flatMap fun c => (ofRole c ss).map fun s => (some (setupMethod c), wiringOf s) := by
  induction cs generalizing head with
  | nil => rfl
  | cons c cs ih =>
    rw [List.forall_mem_cons] at hcs
    rw [List.flatMap_cons, List.flatMap_cons, readUnder_append, ih hcs.2,
      added_setupLines hs hmodule hcs.1]

lemma removed_setups : ∀ l ∈ Capability.firing.flatMap (setupLines module ss),
    wiring? "remove_listener" l = none := by
  intro l hl
  obtain ⟨c, -, hl⟩ := List.mem_flatMap.mp hl
  simp only [setupLines, List.cons_append, List.mem_cons, List.mem_append, List.not_mem_nil,
    or_false] at hl
  rcases hl with rfl | hl | rfl
  · exact (unwired_setupHead c).wiring _
  · split at hl
    · rw [List.mem_singleton.mp hl]
      exact (Unwired.literal _ rfl).wiring _
    · obtain ⟨s, hmem, rfl⟩ := List.mem_map.mp hl
      exact wiring?_other (hs s (List.mem_filter.mp hmem).1) hmodule (c := 'r') (d := 'a') rfl rfl
        (by decide)
  · exact (Unwired.literal [] rfl).wiring _

lemma removed_cleanup (head : Option String) :
    readUnder methodHead? (wiring? "remove_listener") head
      (cleanupOpening ++ ss.map (removeLine module)) =
      ss.map fun s => (some "cleanup_listeners", wiringOf s) := by
  have hhead : methodHead? "    def cleanup_listeners(self):" = some "cleanup_listeners" := by
    decide +kernel
  have hlines : ∀ l ∈ ["        if not self._listeners_setup:", "            return"] ++
      ss.map (removeLine module), methodHead? l = none := by
    simp only [List.forall_mem_append, List.forall_mem_cons]
    refine ⟨⟨by decide, by decide, List.forall_mem_nil _⟩, fun l hl => ?_⟩
    obtain ⟨s, -, rfl⟩ := List.mem_map.mp hl
    exact methodHead?_wireLine _ _ s
  have hread : (["        if not self._listeners_setup:", "            return"] ++
      ss.map (removeLine module)).filterMap (wiring? "remove_listener") =
        ss.map wiringOf := by
    have hif : wiring? "remove_listener" "        if not self._listeners_setup:" = none :=
      (Unwired.literal _ rfl).wiring _
    have hreturn : wiring? "remove_listener" "            return" = none :=
      (Unwired.literal _ rfl).wiring _
    rw [List.filterMap_append, List.filterMap_cons, hif, List.filterMap_cons, hreturn,
      List.filterMap_nil, List.nil_append]
    exact filterMap_map_of_read fun s hmem => wiring?_self (hs s hmem) hmodule "remove_listener"
  rw [cleanupOpening, List.cons_append, readUnder_of_head hhead]
  refine (readUnder_of_no_head hlines _).trans ?_
  rw [hread, List.map_map]
  rfl

lemma added_cleanup : ∀ l ∈ cleanupOpening ++ ss.map (removeLine module),
    wiring? "add_listener" l = none := by
  rw [List.forall_mem_append]
  refine ⟨fun l hl => (unwired_between.2.2 l hl).wiring _, fun l hl => ?_⟩
  obtain ⟨s, hmem, rfl⟩ := List.mem_map.mp hl
  exact wiring?_other (hs s hmem) hmodule (c := 'a') (d := 'r') rfl rfl (by decide)

end Sections

section Unit

variable {scene className library : String} {ss : List Signature} {diff : Option SignatureDiff}
  {stamp : Option String}
  (hlines : ∀ l ∈ machineLines scene className library ss (diff.getD .empty) stamp, Unbroken l)
  (hs : ∀ s ∈ ss, Located s)
include hlines

/-- What is read from a unit is read from its lines between the parts that wire nothing. -/
lemma listeners_machineText (called : String) :
    listeners called (machineText scene className library ss diff stamp) =
      readUnder methodHead? (wiring? called)
        (lastHead methodHead? none
          (beforeSetup scene className library (diff.getD .empty) stamp))
        (Capability.firing.flatMap (setupLines (Name.sanitize scene) ss) ++
          (cleanupOpening ++ ss.map (removeLine (Name.sanitize scene)))) := by
  have hbefore : ∀ l ∈ beforeSetup scene className library (diff.getD .empty) stamp,
      wiring? called l = none := fun l hl => (unwired_beforeSetup _ _ _ _ _ l hl).wiring _
  have hafter : ∀ l ∈ afterRemoval className ss (diff.getD .empty), wiring? called l = none :=
    fun l hl => (unwired_afterRemoval _ _ _ l hl).wiring _
  have hend : ∀ l ∈ [""], wiring? called l = none :=
    List.forall_mem_singleton.mpr ((Unwired.literal [] rfl).wiring _)
  rw [listeners, machineText_eq, linesOf_unlines hlines, machineLines_eq, readUnder_append,
    readUnder_append, readUnder_of_silent hbefore, readUnder_of_silent hend, ← List.append_assoc,
    ← List.append_assoc, readUnder_append, readUnder_of_silent hafter, List.append_nil,
    List.append_nil, List.nil_append, List.append_assoc]

include hs

/-- **Each signature is wired once**, in the setup method of its role. -/
theorem added_machineText :
    listeners "add_listener" (machineText scene className library ss diff stamp) =
      Capability.firing.flatMap fun c =>
        (ofRole c ss).map fun s => (some (setupMethod c), wiringOf s) := by
  have hmodule := isIdentifier_sanitize scene
  rw [listeners_machineText hlines, readUnder_append, added_setups hs hmodule fun _ hc => hc,
    readUnder_of_silent (added_cleanup hs hmodule), List.append_nil]

/-- **Each signature is unwired once**, in the cleanup. -/
theorem removed_machineText :
    listeners "remove_listener" (machineText scene className library ss diff stamp) =
      ss.map fun s => (some "cleanup_listeners", wiringOf s) := by
  have hmodule := isIdentifier_sanitize scene
  rw [listeners_machineText hlines, readUnder_append,
    readUnder_of_silent (removed_setups hs hmodule), removed_cleanup hs hmodule, List.nil_append]

end Unit

end SceneBindings.LineReading
