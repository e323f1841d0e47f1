import SceneBindings.Proofs.Emit.Differences
import SceneBindings.Proofs.Emit.MachineUnit
import SceneBindings.Proofs.Generate.Units
import SceneBindings.Value.Flow

/-!
Generating handlers again and again. A run knows the hooks of the run before only from the machine
unit that it finds, with the hints and marks of that run in it.
-/

namespace SceneBindings.Generate

open SignatureDiff

/-- A run of the generator: what it reads and the desk that it finds. -/
structure Turn where
  forest : Forest
  registry : Registry
  desk : Desk

namespace Turn

def found (t : Turn) : Files := t.desk.files

def groups (t : Turn) : List PanelGroup := (PanelGroup.build t.forest t.registry).1

def signatures (t : Turn) : List Signature := (Signature.collect t.groups).1

def hooks (t : Turn) : List String := t.signatures.map (·.name)

lemma wired (t : Turn) : ∀ x ∈ t.signatures, x.Wired := fun _ hx => Signature.wired_collect hx

lemma unbroken_hooks (t : Turn) : ∀ n ∈ t.hooks, Unbroken n := by
  intro n hn
  obtain ⟨x, hx, rfl⟩ := List.mem_map.mp hn
  exact (t.wired x hx).unbroken_name

/-- The machine unit for the hooks of a run, with what a difference adds to it. -/
def machineUnit (t : Turn) (s : Settings) (scene : String) (diff : Option SignatureDiff) : String :=
  Emit.machineText scene (s.handlerClass scene) (s.libraryRelative scene s.handlersDir)
    t.signatures diff none

def userUnit (t : Turn) (s : Settings) (scene : String) : String :=
  Emit.userText scene (s.handlerClass scene) t.signatures (examplePanel? t.groups)

/-- The desk when a run has said what it is about and what it noticed in the registry. -/
def announced (t : Turn) (scene : String) : Desk :=
  ((t.desk.print ("🔧 Generating UI handlers for " ++ scene ++ "...")).reportAll
    (PanelGroup.build t.forest t.registry).2).reportAll (Signature.collect t.groups).2

lemma files_announced (t : Turn) (scene : String) : (t.announced scene).files = t.found := by
  rw [announced, Desk.files_reportAll, Desk.files_reportAll, Desk.files_print, found]

variable [Yaml]

def run (t : Turn) (s : Settings) : Desk × Except Failure HandlersDone :=
  handlers t.forest t.registry s t.desk

def left (t : Turn) (s : Settings) : Files := (t.run s).1.files

/-- The next run, if nobody does anything to the files. -/
def next (t : Turn) (s : Settings) (f : Forest) (g : Registry) : Turn := ⟨f, g, (t.run s).1⟩

/-- What a run reports when it finds a text as machine unit, or none. -/
def diffFrom (t : Turn) : Option String → SignatureDiff
  | some text => between (HookScan.names (FileContent.text text).lines) t.hooks
  | none => .empty

end Turn

/-- The library of a scene is there, and its machine unit can be written: the directory is there or
can be made, and no directory is in the place of the unit. -/
structure Ready (s : Settings) (scene : String) (fs : Files) : Prop where
  library : fs.exists? (s.libraryPath scene) = true
  clear : (fs.makeDirectory (s.machinePath scene).parent).2 = .ok ()
  free : fs.shown (s.machinePath scene) ≠ some .directory

section Run

variable {s : Settings} {scene : String} {t : Turn}

lemma requireLibrary_eq (hne : scene ≠ "") (hscene : t.registry.sceneName = scene)
    (hready : Ready s scene t.found) : requireLibrary t.registry s t.desk = (t.desk, .ok scene) := by
  have hthere : isLibraryThere s t.desk scene = true := hready.library
  have hempty : scene.isEmpty = false := by simpa using hne
  rw [requireLibrary, hscene]
  simp only [hempty, hthere]
  rfl

lemma unbroken_handlerClass (hclass : Unbroken s.handlers.classPrefix) :
    Unbroken (s.handlerClass scene) := by
  rw [Settings.handlerClass]
  exact (hclass.append (.sanitize scene)).append (.literal _ rfl)

variable [Yaml]

/-- A run that can write both units ends with them and the difference to what it found. -/
lemma run_eq {previous : Option String} (hstamp : s.stamp = false) (hne : scene ≠ "")
    (hscene : t.registry.sceneName = scene) (hready : Ready s scene t.found)
    (hprevious : t.found.get? (s.machinePath scene) = previous.map FileContent.text)
    {d₁ d₂ : Desk} {created : Bool}
    (hreplace : replaceMachine (t.announced scene) (s.machinePath scene)
      (t.machineUnit s scene (some (t.diffFrom previous))) (t.diffFrom previous) = (d₁, .ok ()))
    (hcreate : createUser d₁ (s.userPath scene) (t.userUnit s scene) = (d₂, .ok created)) :
    t.run s = (d₂, .ok ⟨s.machinePath scene, s.userPath scene, created, t.diffFrom previous⟩) := by
  have hhooks : previousHooks (t.announced scene) (s.machinePath scene) =
      (t.announced scene, previous.map fun text => HookScan.names (FileContent.text text).lines) :=
    previousHooks_eq (by rw [t.files_announced, hprevious])
  rw [Turn.machineUnit] at hreplace
  rw [Turn.userUnit] at hcreate
  rw [Turn.run, handlers, requireLibrary_eq hne hscene hready]
  dsimp only
  rw [← Turn.groups, ← Turn.announced, hhooks, stampOf,
    if_neg (by rw [hstamp]; exact Bool.false_ne_true), ← Turn.signatures, ← Turn.hooks]
  cases previous <;>
  · rw [Turn.diffFrom] at hreplace ⊢
    dsimp only [Option.map]
    rw [hreplace]
    dsimp only
    rw [hcreate]

/-- What one run does: it succeeds, replaces the machine unit and creates the user unit if there is
none; no file is lost. -/
lemma run_eq_ok {previous : Option String} (hstamp : s.stamp = false) (hne : scene ≠ "")
    (hscene : t.registry.sceneName = scene) (hready : Ready s scene t.found)
    (hprevious : t.found.get? (s.machinePath scene) = previous.map FileContent.text) :
    ∃ d created,
      t.run s = (d, .ok ⟨s.machinePath scene, s.userPath scene, created, t.diffFrom previous⟩) ∧
      d.files.get? (s.machinePath scene) =
        some (.text (t.machineUnit s scene (some (t.diffFrom previous)))) ∧
      d.files.get? (s.userPath scene) =
        some ((t.found.shown (s.userPath scene)).getD (.text (t.userUnit s scene))) ∧
      ∀ r, t.found.exists? r = true → d.files.exists? r = true := by
  have hfiles := t.files_announced scene
  obtain ⟨hlibrary, hclear, hfree⟩ := hready
  rw [← hfiles] at hclear hfree
  obtain ⟨d₁, hreplace, hwrites⟩ := replaceMachine_eq_ok (s.named_machinePath scene) hclear hfree
    (t.machineUnit s scene (some (t.diffFrom previous))) (t.diffFrom previous)
  rw [hfiles] at hwrites
  have hseated := hwrites.seated rfl
  have hparent : d₁.files.get? (s.userPath scene).parent = some .directory := by
    rw [s.parent_userPath, hseated.above]
  obtain ⟨d₂, created, hcreate, hunit, hrest, hlost⟩ :=
    createUser_eq_ok (s.named_userPath scene) hparent (t.userUnit s scene)
  refine ⟨d₂, created, run_eq hstamp hne hscene ⟨hlibrary, hfiles ▸ hclear, hfiles ▸ hfree⟩
    hprevious hreplace hcreate, ?_, ?_, fun r hr => hlost r (hwrites.exists? rfl hr)⟩
  · rw [hrest _ (s.land_userPath_ne scene _).symm, hseated.here]
  · rw [hunit, hwrites.beside rfl (s.parent_userPath scene) (s.land_userPath_ne scene _)]

/-- The hooks are read back from any machine unit that a run has written. -/
lemma names_machineUnit (hbreaks : Unbroken scene) (hclass : Unbroken s.handlers.classPrefix)
    {diff : SignatureDiff} (hdiff : ∀ n ∈ diff.added ++ diff.removed, Unbroken n) :
    HookScan.names (FileContent.text (t.machineUnit s scene (some diff))).lines =
      sorted t.hooks := by
  rw [HookScan.names, Turn.machineUnit,
    scan_machineText _ hbreaks (unbroken_handlerClass hclass) t.wired hdiff, Turn.hooks]

end Run

/-! ### Histories -/

section Terms

/-- There is no machine unit yet, and one can be made. -/
structure Fresh (s : Settings) (scene : String) (fs : Files) : Prop extends Ready s scene fs where
  absent : fs.get? (s.machinePath scene) = none

/-- What the files may do between two runs: anything but touch the units, as long as the library is
there. -/
structure Spared (s : Settings) (scene : String) (before after : Files) : Prop where
  machine : after.get? (s.machinePath scene) = before.get? (s.machinePath scene)
  user : after.get? (s.userPath scene) = before.get? (s.userPath scene)
  library : after.exists? (s.libraryPath scene) = true

variable [Yaml]

/-- A run reports what came and went since an earlier one. If that is nothing, as when both read the
same registry, then it writes what a first run writes. -/
structure Follows (s : Settings) (scene : String) (u v : Turn) : Prop where
  reports : ∃ done, (v.run s).2 = .ok done ∧ IsDifference done.diff.added v.hooks u.hooks ∧
    IsDifference done.diff.removed u.hooks v.hooks
  unchanged : (∀ n, n ∈ u.hooks ↔ n ∈ v.hooks) →
    (∃ done, (v.run s).2 = .ok done ∧ done.diff = .empty) ∧
    (v.left s).get? (s.machinePath scene) = some (.text (v.machineUnit s scene none)) ∧
    ∀ d : Desk, Fresh s scene d.files →
      (Turn.left { v with desk := d } s).get? (s.machinePath scene) =
        some (.text (v.machineUnit s scene none))

/-- What a run has left: a machine unit for its hooks, whatever the hints, and a user unit. -/
structure Wrote (s : Settings) (scene : String) (user : FileContent) (t : Turn) : Prop where
  machine : ∃ diff : SignatureDiff, (∀ n ∈ diff.added ++ diff.removed, Unbroken n) ∧
    (t.left s).get? (s.machinePath scene) = some (.text (t.machineUnit s scene (some diff)))
  user : (t.left s).get? (s.userPath scene) = some user

end Terms

section History

variable [Yaml] {s : Settings} {scene : String} {t u v : Turn}

lemma first_run (hstamp : s.stamp = false) (hne : scene ≠ "")
    (hscene : t.registry.sceneName = scene) (hfresh : Fresh s scene t.found) :
    (∃ done, (t.run s).2 = .ok done ∧ done.diff = .empty) ∧
      (t.left s).get? (s.machinePath scene) = some (.text (t.machineUnit s scene none)) ∧
      Wrote s scene ((t.found.shown (s.userPath scene)).getD (.text (t.userUnit s scene))) t := by
  have hnone : t.found.get? (s.machinePath scene) = (none : Option String).map FileContent.text :=
    hfresh.absent
  obtain ⟨d, created, hrun, hmachine, huser, -⟩ :=
    run_eq_ok hstamp hne hscene hfresh.toReady hnone
  have hleft : t.left s = d.files := by rw [Turn.left, hrun]
  rw [← hleft] at hmachine huser
  refine ⟨⟨_, by rw [hrun], rfl⟩, hmachine, ⟨⟨.empty, nofun, hmachine⟩, huser⟩⟩

lemma next_run (hstamp : s.stamp = false) (hne : scene ≠ "") (hbreaks : Unbroken scene)
    (hclass : Unbroken s.handlers.classPrefix) (hscene : v.registry.sceneName = scene)
    {user : FileContent} (hu : Wrote s scene user u)
    (hspared : Spared s scene (u.left s) v.found) :
    Follows s scene u v ∧ Wrote s scene user v := by
  obtain ⟨diff, hdiff, hmachine⟩ := hu.machine
  have hfound : v.found.get? (s.machinePath scene) =
      (some (u.machineUnit s scene (some diff))).map FileContent.text :=
    hspared.machine.trans hmachine
  have hdir : v.found.get? (s.machinePath scene).parent = some .directory := by
    refine Files.directory_of_exists (s.named_machinePath scene) ?_
    rw [Files.exists?, hfound]
    rfl
  have hready : Ready s scene v.found := by
    refine ⟨hspared.library, by rw [Files.makeDirectory_of_directory hdir], ?_⟩
    rw [Files.shown_of_directory hdir, hfound]
    intro hno
    cases hno
  obtain ⟨d, created, hrun, hunit, huser, -⟩ :=
    run_eq_ok hstamp hne hscene hready hfound
  have hleft : v.left s = d.files := by rw [Turn.left, hrun]
  rw [← hleft] at hunit huser
  rw [Turn.diffFrom, names_machineUnit hbreaks hclass hdiff] at hrun hunit
  generalize hnow : between (sorted u.hooks) v.hooks = now at hrun hunit
  have hadded : IsDifference now.added v.hooks u.hooks :=
    hnow ▸ (isDifference_added _ _).congr (fun _ => Iff.rfl) fun _ => mem_sorted
  have hremoved : IsDifference now.removed u.hooks v.hooks :=
    hnow ▸ (isDifference_removed _ _).congr (fun _ => mem_sorted) fun _ => Iff.rfl
  refine ⟨⟨⟨_, by rw [hrun], hadded, hremoved⟩, fun hsame => ?_⟩, ⟨⟨now, ?_, hunit⟩, ?_⟩⟩
  · have hempty : now = .empty := eq_empty (hadded.eq_nil fun n hn => (hsame n).mpr hn)
      (hremoved.eq_nil fun n hn => (hsame n).mp hn)
    subst hempty
    refine ⟨⟨_, by rw [hrun], rfl⟩, hunit, fun d hfresh => ?_⟩
    exact (first_run (t := { v with desk := d }) hstamp hne hscene hfresh).2.1
  · intro n hn
    rcases List.mem_append.mp hn with hn | hn
    · exact v.unbroken_hooks n ((hadded.mem n).mp hn).1
    · exact u.unbroken_hooks n ((hremoved.mem n).mp hn).1
  · rw [huser, Files.shown_of_directory (by rw [s.parent_userPath, hdir]), hspared.user, hu.user,
      Option.getD_some]

/-- If nobody does anything to the files after a first run, the next one finds what it needs. -/
lemma spared_next (hstamp : s.stamp = false) (hne : scene ≠ "")
    (hscene : t.registry.sceneName = scene) (hfresh : Fresh s scene t.found) (f : Forest)
    (g : Registry) :
    Spared s scene (t.left s) (t.next s f g).found := by
  have hnone : t.found.get? (s.machinePath scene) = (none : Option String).map FileContent.text :=
    hfresh.absent
  obtain ⟨d, created, hrun, -, -, hkept⟩ := run_eq_ok hstamp hne hscene hfresh.toReady hnone
  rw [Turn.found, Turn.next, Turn.left, hrun]
  exact ⟨rfl, rfl, hkept _ hfresh.library⟩

/-- **Regeneration over histories.** The first run for a scene reports nothing, each later run what
came and went since the run before it, and the user unit stays as the first run left it. -/
theorem regeneration_history {ts : List Turn} (hstamp : s.stamp = false) (hne : scene ≠ "")
    (hbreaks : Unbroken scene) (hclass : Unbroken s.handlers.classPrefix)
    (hscene : ∀ u ∈ t :: ts, u.registry.sceneName = scene) (hfresh : Fresh s scene t.found)
    (hspared : (t :: ts).IsChain fun u v => Spared s scene (u.left s) v.found) :
    (∃ done, (t.run s).2 = .ok done ∧ done.diff = .empty) ∧
      (t :: ts).IsChain (Follows s scene) ∧
      ∀ u ∈ t :: ts, (u.left s).get? (s.userPath scene) =
        some ((t.found.shown (s.userPath scene)).getD (.text (t.userUnit s scene))) := by
  obtain ⟨hfirst, -, hwrote⟩ := first_run hstamp hne (hscene t List.mem_cons_self) hfresh
  refine ⟨hfirst, ?_⟩
  clear hfresh hfirst
  generalize (t.found.shown (s.userPath scene)).getD (.text (t.userUnit s scene)) = user at hwrote
  -- Along the history it is what the last run wrote that the next one depends on.
  induction ts generalizing t with
  | nil => exact ⟨.singleton t, fun u hu => List.mem_singleton.mp hu ▸ hwrote.user⟩
  | cons v ts ih =>
    rw [List.isChain_cons_cons] at hspared
    rw [List.forall_mem_cons] at hscene
    obtain ⟨hfollows, hnext⟩ := next_run hstamp hne hbreaks hclass
      (hscene.2 v List.mem_cons_self) hwrote hspared.1
    obtain ⟨hchain, huser⟩ := ih hscene.2 hspared.2 hnext
    exact ⟨.cons_cons hfollows hchain, List.forall_mem_cons.mpr ⟨hwrote.user, huser⟩⟩

end History

/-- A registry with a button in a scene called Main. -/
def oneButton (name : String) : Registry :=
  { Registry.blank .empty with
    sceneName := "Main"
    store := [⟨name, name, .button, .never⟩]
    categories := [⟨"Main", [0]⟩] }

/-- A desk with the library of the scene and nothing else. -/
def libraryDesk : Desk :=
  ⟨(Files.bare ["generated", "ui"]).put ["generated", "ui", "UI_Library_Main.py"] (.text ""),
    [], ⟨2024, 1, 1, 12, 0, 0⟩, []⟩

/-- One button is replaced by another between two runs. -/
theorem regeneration_history_of_replaced_button :
    let s := Settings.default ⟨.single, []⟩
    let t : Turn := ⟨.empty, oneButton "Play", libraryDesk⟩
    let u := t.next s .empty (oneButton "Quit")
    (t.hooks = ["on_play_clicked"] ∧ u.hooks = ["on_quit_clicked"]) ∧
      (∃ done, (t.run s).2 = .ok done ∧ done.diff = .empty) ∧
      [t, u].IsChain (Follows s "Main") ∧
      ∀ v ∈ [t, u], (v.left s).get? (s.userPath "Main") =
        some ((t.found.shown (s.userPath "Main")).getD (.text (t.userUnit s "Main"))) := by
  intro s t u
  have hne : "Main" ≠ "" := by decide
  have hbreaks : Unbroken "Main" := .literal _ rfl
  have hclass : Unbroken s.handlers.classPrefix := .literal _ rfl
  have hnone : t.found.shown (s.machinePath "Main") = none := by decide +kernel
  have hfresh : Fresh s "Main" t.found := by
    refine ⟨⟨by decide +kernel, by decide +kernel, ?_⟩, Files.get?_of_shown_eq_none hnone⟩
    rw [hnone]
    exact nofun
  have hspared : Spared s "Main" (t.left s) u.found :=
    spared_next rfl hne rfl hfresh .empty (oneButton "Quit")
  have hplay : t.hooks = ["on_play_clicked"] := by decide +kernel
  have hquit : u.hooks = ["on_quit_clicked"] := by decide +kernel
  have hscene : ∀ v ∈ [t, u], v.registry.sceneName = "Main" :=
    List.forall_mem_cons.mpr ⟨rfl, List.forall_mem_singleton.mpr rfl⟩
  have hchain : [t, u].IsChain fun u v => Spared s "Main" (u.left s) v.found :=
    .cons_cons hspared (.singleton u)
  exact ⟨⟨hplay, hquit⟩,
    @regeneration_history _ s "Main" t [u] rfl hne hbreaks hclass hscene hfresh hchain⟩

end SceneBindings.Generate
