import SceneBindings.Emit.Handlers
import SceneBindings.Proofs.Emit.HookScan
import SceneBindings.Proofs.Emit.Signatures

/-!
The hooks that a machine unit declares are the ones that it was made for. All its other lines are
passed over by the scan, whatever the scene and the classes are called and whatever the hints say.
-/

namespace SceneBindings

open Emit HookScan Naming Text

/-- A line that is not broken and yields no hook. -/
structure Quiet (l : String) : Prop where
  unbroken : Unbroken l
  empty_or_dead : l = "" ∨ isDead l.toList = true

namespace Quiet

lemma literal (cs : List Char)
    (h : (cs.all (fun c => !isBreak c) && (cs.isEmpty || isDead cs)) = true) :
    Quiet (String.ofList cs) := by
  rw [Bool.and_eq_true, Bool.or_eq_true] at h
  refine ⟨.literal cs h.1, h.2.imp (fun he => ?_) fun hd => ?_⟩
  · rw [List.isEmpty_iff.mp he]
  · rw [String.toList_ofList, hd]

lemma append (cs : List Char) {m : String} (hm : Unbroken m)
    (h : (cs.all (fun c => !isBreak c) && isDead cs) = true) :
    Quiet (String.ofList cs ++ m) := by
  rw [Bool.and_eq_true] at h
  refine ⟨(Unbroken.literal cs h.1).append hm, .inr ?_⟩
  rw [String.toList_append, String.toList_ofList]
  exact isDead_append h.2 _

lemma append_literal (cs ds : List Char) {m : String} (hm : Unbroken m)
    (h : ((cs ++ ds).all (fun c => !isBreak c) && isDead (cs ++ ds)) = true) :
    Quiet (String.ofList cs ++ (String.ofList ds ++ m)) := by
  have hline := append (cs ++ ds) hm h
  rwa [String.ofList_append, String.append_assoc] at hline

end Quiet

/-- Lines that are not broken and yield these names. -/
structure Yields (ls ns : List String) : Prop where
  reads : Reads ls ns
  unbroken : ∀ l ∈ ls, Unbroken l

namespace Yields

lemma append {ls ms ns os : List String} (h : Yields ls ns) (h' : Yields ms os) :
    Yields (ls ++ ms) (ns ++ os) where
  reads := h.reads.append h'.reads
  unbroken := List.forall_mem_append.mpr ⟨h.unbroken, h'.unbroken⟩

lemma quiet {ls : List String} (h : ∀ l ∈ ls, Quiet l) : Yields ls [] where
  unbroken l hl := (h l hl).1
  reads := by
    induction ls with
    | nil => exact .nil
    | cons l ls ih =>
      rw [List.forall_mem_cons] at h
      have hline : Reads [l] [] := by
        obtain ⟨hl, rfl | hdead⟩ := h.1
        · exact .empty_line
        · exact .dead_line hdead fun hn => (hl '\n' hn).1 rfl
      exact hline.append (ih h.2)

lemma flatMap {α : Type} {f : α → List String} {n : α → String} {as : List α}
    (h : ∀ a ∈ as, Yields (f a) [n a]) : Yields (as.flatMap f) (as.map n) where
  reads := .flatMap fun a ha => (h a ha).reads
  unbroken l hl := by
    obtain ⟨a, ha, hl⟩ := List.mem_flatMap.mp hl
    exact (h a ha).unbroken l hl

end Yields

/-! ### Sections of the unit -/

lemma mem_of_mem_linesIf {b : Bool} {l : String} {ls : List String} (h : l ∈ linesIf b ls) :
    l ∈ ls := by
  cases b
  · cases h
  · exact h

lemma quiet_header {scene className : String} {stamp : Option String} (hc : Unbroken className)
    (ht : ∀ t, stamp = some t → Unbroken t) :
    ∀ l ∈ machineHeader scene className stamp, Quiet l := by
  have hpy : Unbroken (className ++ ".py") := hc.append (.literal _ rfl)
  have hstamp : ∀ l ∈ stampLine stamp, Quiet l := by
    cases stamp with
    | none => exact nofun
    | some t => exact List.forall_mem_singleton.mpr (.append _ (ht t rfl) rfl)
  simp only [machineHeader, List.forall_mem_append, List.forall_mem_cons, String.append_assoc]
  exact ⟨⟨⟨.literal _ rfl, .literal _ rfl, .append _ (.sanitize scene) rfl, nofun⟩, hstamp⟩,
    .literal _ rfl, .literal _ rfl, .append _ hpy rfl, .literal _ rfl, nofun⟩

lemma quiet_hints {d : SignatureDiff} {userFile : String} (hu : Unbroken userFile)
    (hd : ∀ n ∈ d.added ++ d.removed, Unbroken n) : ∀ l ∈ hintLines d userFile, Quiet l := by
  have hcall : Unbroken "()" := .literal _ rfl
  have hclose : Unbroken "):" := .literal _ rfl
  have hcolon : Unbroken ":" := .literal _ rfl
  have hitem : ∀ n ∈ d.added ++ d.removed, Quiet ("#   - " ++ (n ++ "()")) :=
    fun n hn => .append _ ((hd n hn).append hcall) rfl
  intro l hl
  simp only [hintLines, List.mem_append, String.append_assoc] at hl
  rcases hl with ((hl | hl) | hl) | hl
  · simp only [List.mem_cons, List.not_mem_nil, or_false] at hl
    rcases hl with rfl | rfl
    · exact .literal _ rfl
    · exact .literal _ rfl
  · have hl := mem_of_mem_linesIf hl
    simp only [List.cons_append, List.nil_append, List.mem_cons, List.mem_map] at hl
    rcases hl with rfl | rfl | ⟨n, hn, rfl⟩
    · exact .literal _ rfl
    · exact .append _ (hu.append hcolon) rfl
    · exact hitem n (List.mem_append_left _ hn)
  · have hl := mem_of_mem_linesIf hl
    simp only [List.cons_append, List.nil_append, List.mem_cons, List.mem_map] at hl
    rcases hl with rfl | rfl | ⟨n, hn, rfl⟩
    · exact .literal _ rfl
    · exact .append _ (hu.append hclose) rfl
    · exact hitem n (List.mem_append_right _ hn)
  · rw [List.mem_singleton.mp hl]
    exact .literal _ rfl

/-- What keeps a word before it from being read as the start of a hook. -/
def keepsWord : List Char → Bool
  | [] => false
  | c :: r =>
    c != 'e' && c != 'f' && (!isBlank c ||
      match skipBlanks r with
      | [] => false
      | d :: _ => d != 'o')

lemma isDead_keepsWord {w s : List Char} (hw : ∀ a ∈ w, isBlank a = false) (hne : w ≠ [])
    (hs : keepsWord s = true) (t : List Char) : isDead (w ++ (s ++ t)) = true := by
  cases s with
  | nil => cases hs
  | cons c r =>
    simp only [keepsWord, Bool.and_eq_true, Bool.or_eq_true, bne_iff_ne, Bool.not_eq_true'] at hs
    obtain ⟨⟨hce, hcf⟩, hc⟩ := hs
    refine isDead_word hw hne hce hcf (hc.imp id fun hr => ?_)
    split at hr
    · cases hr
    · next d r' hd =>
      have hrest : skipBlanks (r ++ t) = d :: (r' ++ t) := by
        rw [skipBlanks_append (by rw [hd]; exact List.cons_ne_nil _ _), hd, List.cons_append]
      exact ⟨d, r' ++ t, hrest, by simpa using hr⟩

/-- A line that begins with the name of the scene's module. -/
lemma quiet_module (scene : String) (indent s : List Char)
    (hi : indent.all (fun c => isBlank c && !isBreak c) = true)
    (hs : (s.all (fun c => !isBreak c) && keepsWord s) = true) {m : String} (hm : Unbroken m) :
    Quiet (String.ofList indent ++ (Name.sanitize scene ++ (String.ofList s ++ m))) := by
  rw [Bool.and_eq_true] at hs
  have hblank : ∀ a ∈ indent, isBlank a = true ∧ isBreak a = false := by
    simpa [List.all_eq_true] using hi
  have hbreak : Unbroken (String.ofList indent) :=
    .literal indent (List.all_eq_true.mpr fun a ha => by simp [(hblank a ha).2])
  have hmore : Unbroken (String.ofList s ++ m) := (Unbroken.literal s hs.1).append hm
  refine ⟨hbreak.append ((Unbroken.sanitize scene).append hmore), .inr ?_⟩
  have hskip : skipBlanks (indent ++ (sanitize scene.toList ++ (s ++ m.toList))) =
      skipBlanks (sanitize scene.toList ++ (s ++ m.toList)) :=
    List.dropWhile_append_of_pos fun a ha => (hblank a ha).1
  have hword : isDead (sanitize scene.toList ++ (s ++ m.toList)) = true :=
    isDead_keepsWord (fun a ha => isBlank_of_isIdentifierChar (isIdentifierChar_sanitize ha))
      (sanitize_ne_nil _) hs.2 _
  simp only [String.toList_append, Name.sanitize, Name.ofChars, String.toList_ofList]
  rw [isDead] at hword ⊢
  rw [hskip]
  exact hword

lemma quiet_opening {scene className : String} (library : String) (hs : Unbroken scene)
    (hc : Unbroken className) : ∀ l ∈ machineOpening scene className library, Quiet l := by
  have hload : Quiet (Name.sanitize scene ++ (" = load_generated_unit(__file__, " ++
      (quoted library ++ ")"))) := by
    have hline := quiet_module scene [] " = load_generated_unit(__file__, ".toList (by decide)
      (by decide) ((Unbroken.quoted library).append (.literal [')'] rfl))
    simpa using hline
  have huse : Quiet ("        " ++ (Name.sanitize scene ++ ".UI.initialize(self.registry)")) := by
    have hline := quiet_module scene "        ".toList ['.'] (by decide) (by decide)
      (.literal "UI.initialize(self.registry)".toList rfl)
    simpa using hline
  simp only [machineOpening, List.forall_mem_cons, String.append_assoc]
  and_intros
  · exact .append _ (hs.append (.literal _ rfl)) rfl
  · exact .literal _ rfl
  · exact .literal _ rfl
  · exact .literal _ rfl
  · exact hload
  · exact .literal _ rfl
  · exact .literal _ rfl
  · exact .append _ (hc.append (.literal _ rfl)) rfl
  · exact .append _ (hs.append (.literal _ rfl)) rfl
  · exact .literal _ rfl
  · exact .append _ (hc.append (.literal _ rfl)) rfl
  all_goals first | exact .literal _ rfl | exact huse | exact nofun

lemma wireLine_eq (method module : String) (s : Signature) :
    wireLine method module s = "        " ++ (module ++ ("." ++ (s.accessor ++ ("." ++
      (s.hook.event ++ ("." ++ (method ++ ("(self." ++ (s.name ++ ")"))))))))) := by
  delta wireLine
  simp only [String.append_assoc]

lemma quiet_wireLine (scene : String) {method : String} {s : Signature} (hs : s.Wired)
    (hm : Unbroken method) : Quiet (wireLine method (Name.sanitize scene) s) := by
  have hdot : Unbroken "." := .literal _ rfl
  have hself : Unbroken "(self." := .literal _ rfl
  have hclose : Unbroken ")" := .literal _ rfl
  have hcall := hdot.append (hm.append (hself.append (hs.unbroken_name.append hclose)))
  rw [wireLine_eq]
  exact quiet_module scene _ ['.'] (by decide) (by decide)
    (hs.accessor.append (hdot.append (hs.unbroken_event.append hcall)))

lemma quiet_callSetup (c : Capability) : Quiet (callSetup c) := by
  have hcall : Unbroken "()" := .literal _ rfl
  have hmethod : Unbroken (setupMethod c) := by
    rw [setupMethod]
    cases c <;> exact .literal _ rfl
  have hline : callSetup c = "        self." ++ (setupMethod c ++ "()") := String.append_assoc ..
  rw [hline]
  exact .append _ (hmethod.append hcall) rfl

lemma quiet_setupHead {c : Capability} (hc : c ∈ Capability.firing) :
    Quiet ("    def " ++ setupMethod c ++ "(self):") := by
  have hself : Unbroken "(self):" := .literal _ rfl
  simp only [Capability.firing, List.mem_cons, List.not_mem_nil, or_false] at hc
  rw [String.append_assoc, setupMethod]
  rcases hc with rfl | rfl | rfl | rfl | rfl <;> exact .append_literal _ _ hself rfl

lemma quiet_setupLines (scene : String) {ss : List Signature} (hs : ∀ s ∈ ss, s.Wired)
    {c : Capability} (hc : c ∈ Capability.firing) :
    ∀ l ∈ setupLines (Name.sanitize scene) ss c, Quiet l := by
  intro l hl
  simp only [setupLines, List.cons_append, List.mem_cons, List.mem_append, List.not_mem_nil,
    or_false] at hl
  rcases hl with rfl | hl | rfl
  · exact quiet_setupHead hc
  · split at hl
    · rw [List.mem_singleton.mp hl]
      exact .literal _ rfl
    · obtain ⟨s, hmem, rfl⟩ := List.mem_map.mp hl
      exact quiet_wireLine scene (hs s (List.mem_filter.mp hmem).1) (.literal _ rfl)
  · exact .literal _ rfl

lemma yields_defLine {s : Signature} (hs : s.Wired) : Yields [defLine s] [s.name] := by
  obtain ⟨more, hmore, hparameters⟩ := hs.parameters
  obtain ⟨tail, hne, htail, hname⟩ := hs.name
  have hdef : Unbroken "    def " := .literal _ rfl
  have hopen : Unbroken "(" := .literal _ rfl
  have hself : Unbroken "self" := .literal _ rfl
  have hclose : Unbroken "):" := .literal _ rfl
  constructor
  · have htext : (defLine s).toList =
        "    def on_".toList ++ tail ++ ("(self".toList ++ (more ++ "):").toList) := by
      simp [defLine, hname, hparameters]
    rw [hname]
    exact .hook_line htext hne (fun c hc => isWord_of_isIdentifierChar (htail c hc))
      fun hn => (hmore.append hclose '\n' hn).1 rfl
  · rw [List.forall_mem_singleton, defLine, hparameters]
    exact (((hdef.append hs.unbroken_name).append hopen).append (hself.append hmore)).append hclose

lemma yields_emptyHook {added : List String} {userFile : String} {s : Signature} (hs : s.Wired)
    (hu : Unbroken userFile) : Yields (emptyHook added userFile s) [s.name] := by
  have hmark : ∀ l ∈ linesIf (added.contains s.name)
      ["    # ✨ NEW - Implement this in " ++ userFile], Quiet l := by
    intro l hl
    rw [List.mem_singleton.mp (mem_of_mem_linesIf hl)]
    exact .append _ hu rfl
  have hbody : ∀ l ∈ ["        pass", ""], Quiet l := by
    simp only [List.forall_mem_cons]
    exact ⟨.literal _ rfl, .literal [] rfl, nofun⟩
  exact (Yields.quiet hmark).append ((yields_defLine hs).append (.quiet hbody))

/-! ### Listeners -/

section Listeners

variable {cs : List Capability} {ss : List Signature} (scene : String)

lemma quiet_calls (cs : List Capability) : ∀ l ∈ cs.map callSetup, Quiet l := by
  intro l hl
  obtain ⟨c, -, rfl⟩ := List.mem_map.mp hl
  exact quiet_callSetup c

lemma quiet_setups (hs : ∀ s ∈ ss, s.Wired) (hcs : ∀ c ∈ cs, c ∈ Capability.firing) :
    ∀ l ∈ cs.flatMap (setupLines (Name.sanitize scene) ss), Quiet l := by
  intro l hl
  obtain ⟨c, hc, hl⟩ := List.mem_flatMap.mp hl
  exact quiet_setupLines scene hs (hcs c hc) l hl

lemma quiet_removes (hs : ∀ s ∈ ss, s.Wired) :
    ∀ l ∈ ss.map (removeLine (Name.sanitize scene)), Quiet l := by
  intro l hl
  obtain ⟨s, hmem, rfl⟩ := List.mem_map.mp hl
  exact quiet_wireLine scene (hs s hmem) (.literal _ rfl)

end Listeners

/-! ### The unit -/

lemma quiet_between : (∀ l ∈ setupOpening, Quiet l) ∧ (∀ l ∈ setupClosing, Quiet l) ∧
    ∀ l ∈ cleanupOpening, Quiet l := by
  simp only [setupOpening, setupClosing, cleanupOpening, List.forall_mem_cons]
  and_intros
  all_goals first | exact .literal _ rfl | exact nofun

/-- The lines of a machine unit. -/
def machineLines (scene className library : String) (ss : List Signature) (d : SignatureDiff)
    (stamp : Option String) : List String :=
  machineHeader scene className stamp ++
    linesIf d.hasChanges (hintLines d (className ++ ".py")) ++
    machineOpening scene className library ++
    setupOpening ++ Capability.firing.map callSetup ++ setupClosing ++
    Capability.firing.flatMap (setupLines (Name.sanitize scene) ss) ++
    cleanupOpening ++ ss.map (removeLine (Name.sanitize scene)) ++
    ["        self.cleanup_custom_listeners()",
      "        self._listeners_setup = False",
      "",
      "    def cleanup_custom_listeners(self):",
      "        \"\"\"Remove listeners added by hand in initialize_ui().\"\"\"",
      "",
      "    # endregion",
      "",
      "    # region Hooks",
      ""] ++
    ss.flatMap (emptyHook d.added (className ++ ".py")) ++
    ["    # endregion"]

lemma machineText_eq (scene className library : String) (ss : List Signature)
    (diff : Option SignatureDiff) (stamp : Option String) :
    machineText scene className library ss diff stamp =
      unlines (machineLines scene className library ss (diff.getD .empty) stamp) := rfl

/-- The lines of a machine unit yield the names of its signatures. -/
lemma yields_machineLines {scene className : String} (library : String) {ss : List Signature}
    {d : SignatureDiff} {stamp : Option String} (hscene : Unbroken scene)
    (hclass : Unbroken className) (hs : ∀ s ∈ ss, s.Wired)
    (hd : ∀ n ∈ d.added ++ d.removed, Unbroken n) (ht : ∀ t, stamp = some t → Unbroken t) :
    Yields (machineLines scene className library ss d stamp) (ss.map (·.name)) := by
  have huser : Unbroken (className ++ ".py") := hclass.append (.literal _ rfl)
  have hhints : ∀ l ∈ linesIf d.hasChanges (hintLines d (className ++ ".py")), Quiet l :=
    fun l hl => quiet_hints huser hd l (mem_of_mem_linesIf hl)
  have hhooks : Yields (ss.flatMap (emptyHook d.added (className ++ ".py"))) (ss.map (·.name)) :=
    .flatMap fun s hmem => yields_emptyHook (hs s hmem) huser
  have hlast : ∀ l ∈ ["    # endregion"], Quiet l :=
    List.forall_mem_singleton.mpr (.literal _ rfl)
  obtain ⟨hopening, hclosing, hcleanup⟩ := quiet_between
  rw [← List.append_nil (ss.map (·.name)), ← List.nil_append (ss.map (·.name))]
  refine .append (.append (.quiet ?_) hhooks) (.quiet hlast)
  simp only [List.forall_mem_append]
  refine ⟨⟨⟨⟨⟨⟨⟨⟨⟨quiet_header hclass ht, hhints⟩, quiet_opening library hscene hclass⟩, hopening⟩,
    quiet_calls _⟩, hclosing⟩, quiet_setups scene hs fun c hc => hc⟩, hcleanup⟩,
    quiet_removes scene hs⟩, ?_⟩
  simp only [List.forall_mem_cons]
  and_intros
  all_goals first | exact .literal _ rfl | exact nofun

lemma unifyBreaks_eq_self {s : List Char} (h : '\r' ∉ s) : unifyBreaks s = s := by
  induction s with
  | nil => rfl
  | cons c s ih =>
    rw [List.mem_cons, not_or] at h
    rw [unifyBreaks.eq_def]
    split
    · next he => cases he; exact absurd rfl h.1
    · next he => cases he; exact absurd rfl h.1
    · next he => cases he; rw [ih h.2]
    · next he => cases he

lemma return_not_mem_unlines {ls : List String} (h : ∀ l ∈ ls, Unbroken l) :
    '\r' ∉ (unlines ls).toList := by
  induction ls with
  | nil => simp [unlines]
  | cons l ls ih =>
    rw [List.forall_mem_cons] at h
    rw [toList_unlines_cons, List.mem_append, List.mem_cons]
    rintro (hl | hn | hr)
    · exact (h.1 _ hl).2 rfl
    · exact absurd hn (by decide)
    · exact ih h.2 hr

/-- **The scan reads back what the emitter wrote**: read as a file, a machine unit declares the hooks
that it was made for, in their order, whatever its hints and marks say. -/
theorem scan_machineText [Yaml] {scene className : String} (library : String) {ss : List Signature}
    {d : SignatureDiff} (hscene : Unbroken scene) (hclass : Unbroken className)
    (hs : ∀ s ∈ ss, s.Wired) (hd : ∀ n ∈ d.added ++ d.removed, Unbroken n) :
    scan (FileContent.text (machineText scene className library ss (some d) none)).lines =
      ss.map (·.name) := by
  have hyields : Yields (machineLines scene className library ss d none) (ss.map (·.name)) :=
    yields_machineLines library hscene hclass hs hd nofun
  rw [machineText_eq, Option.getD_some, FileContent.lines, FileContent.chars,
    unifyBreaks_eq_self (return_not_mem_unlines hyields.unbroken), String.ofList_toList]
  exact hyields.reads.scan_eq

end SceneBindings
