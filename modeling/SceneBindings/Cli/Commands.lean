import SceneBindings.Cli.Arguments
import SceneBindings.Files.Documents
import SceneBindings.Generate.PanelHandlers
import SceneBindings.Search.Debounce

/-!
The commands of the command line. Each works on the files of a project and says what it does.
-/

namespace SceneBindings.Cli

/-- Commands keep what they did if they fail. -/
abbrev Job (α : Type) := ExceptT Failure (StateM Desk) α

namespace Job

def say (es : List Event) : Job Unit := modify fun d => { d with events := d.events ++ es }

def print (text : String) : Job Unit := say [.line text]

def onDesk {α : Type} (act : Desk → Desk × Except Failure α) : Job α := do
  let (d, r) := act (← get)
  set d
  ofExcept r

/-- Runs an operation on a workspace and says what it said. -/
def on {α : Type} (w : Workspace) (act : Workspace → Workspace × α) : Job (Workspace × α) := do
  let (w, a) := act { w with events := [] }
  say w.events
  return ({ w with events := [] }, a)

end Job

open Job

variable [Yaml] [Validator]

/-- The scene of a project. -/
def loadScene (s : Settings) : Job (Forest × SceneId) := do
  let v ← ofExcept ((← get).files.readScene s.scenePath)
  let loaded := Forest.empty.loadScene v
  say loaded.events
  let scene ← ofExcept loaded.result
  return (loaded.forest, scene)

/-- The stored registry, bound to a scene. -/
def boundRegistry (s : Settings) (f : Forest) (scene : SceneId) : Job Workspace := do
  let g ← ofExcept ((← get).files.readRegistry f s.registryPath)
  let sceneName := if g.sceneName.isEmpty then (f.scene scene).name else g.sceneName
  let (w, _) ← on ⟨f, { g with sceneName }, none, []⟩ fun w => w.bindScene scene
  return w

def newStandardizer (s : Settings) : Standardizer :=
  .new s.naming.parts s.naming.respectExisting

/-! ### Commands -/

/-- Registers one node, unless it has no role or is known already. -/
def registerNode (w : Workspace) (k : Key) : Workspace × Except Failure Unit :=
  if w.forest.classify k = .unknown || w.registry.hasKey k then (w, .ok ())
  else
    match w.add (some k) .standard none with
    | (w, .ok _) => (w, .ok ())
    | (w, .error e) => (w, .error e)

def registerNodes (w : Workspace) : List Key → Workspace × Except Failure Unit
  | [] => (w, .ok ())
  | k :: ks =>
    match registerNode w k with
    | (w, .ok ()) => registerNodes w ks
    | (w, .error e) => (w, .error e)

def register (s : Settings) : Job Nat := do
  print "🔍 Registering UI elements..."
  let (f, scene) ← loadScene s
  let w ← boundRegistry s f scene
  let w := if s.naming.onAdd then { w with namer := some (newStandardizer s) } else w
  let before := w.registry.size
  let (w, r) ← on w fun w => registerNodes w (w.forest.walk scene)
  ofExcept r
  let (w, _) ← on w Workspace.refreshPaths
  onDesk fun d => d.storeRegistry s.registryPath w.registry
  let total := w.registry.size
  print ("✅ Registered " ++ toString ((total : Int) - before) ++ " new elements (" ++
    toString total ++ " total)")
  match w.namer with
  | some z =>
    if z.renamed != 0 then
      onDesk fun d => d.storeDocument s.scenePath (w.forest.writeScene scene)
      print ("✏️  Renamed " ++ toString z.renamed ++ " nodes, scene file updated")
  | none => pure ()
  return 0

def standardize (s : Settings) (force : Bool) : Job Nat := do
  print "✏️  Standardizing UI element names..."
  let (f, scene) ← loadScene s
  let hasRegistry := (← get).files.exists? s.registryPath
  let w ← if hasRegistry then boundRegistry s f scene else pure ⟨f, .blank f, none, []⟩
  let (r, renamed) := Renaming.standardizeScene ⟨w.forest, newStandardizer s, [], none⟩ scene force
  say r.events
  ofExcept (match r.fault with
    | some e => .error e
    | none => .ok ())
  let w := { w with forest := r.forest }
  onDesk fun d => d.storeDocument s.scenePath (w.forest.writeScene scene)
  if hasRegistry then
    let (w, moved) ← on w Workspace.refreshPaths
    onDesk fun d => d.storeRegistry s.registryPath w.registry
    print ("📝 Updated " ++ toString moved ++ " registry paths")
  print ("✅ Renamed " ++ toString renamed ++ " nodes")
  return 0

def checkNames (s : Settings) : Job Nat := do
  let (f, scene) ← loadScene s
  let (total, bad) := f.namingIssues scene
  print ("📊 " ++ toString total ++ " UI elements, " ++ toString bad.length ++
    " with default names")
  say (bad.map fun path => .line ("   - " ++ path))
  return if bad.isEmpty then 0 else 1

/-- Who decides about files that are there; nobody does if they are to be skipped. -/
def OnConflict.decider? : OnConflict → Option Decider
  | backup => some (.always .backup)
  | overwrite => some (.always .overwrite)
  | cancel => some (.always .cancel)
  | ask => some .ask
  | skip => none

def library (s : Settings) (c : OnConflict) : Job Nat := do
  let (f, scene) ← loadScene s
  let w ← boundRegistry s f scene
  let written ← onDesk fun d => Generate.library w.forest w.registry s d c.decider?
  return if written.isSome then 0 else 1

def handlers (s : Settings) : Job Nat := do
  let (f, scene) ← loadScene s
  let w ← boundRegistry s f scene
  let done ← onDesk fun d => Generate.handlers w.forest w.registry s d
  say (done.diff.added.map fun n => .line ("   + " ++ n))
  say (done.diff.removed.map fun n => .line ("   - " ++ n))
  return 0

def panelHandlers (s : Settings) (panels : List String) (c : OnConflict) : Job Nat := do
  let (f, scene) ← loadScene s
  let w ← boundRegistry s f scene
  let wanted := if panels.isEmpty then none else some panels
  let done ← onDesk fun d => Generate.panelHandlers w.forest w.registry s d c.decider? wanted
  print ("📊 " ++ toString done.written.length ++ " panel handlers written, " ++
    toString done.skipped.length ++ " skipped")
  return 0

/-- One line of a search: the name under its depth, marked if it matches or is to be expanded. -/
def searchLine (f : Forest) (k : Key) (isMatch expand : Bool) : String :=
  String.join (List.replicate (f.depth k) "  ") ++ (if isMatch then "🔍" else "  ") ++ " " ++
    (f.node k).name ++ (if expand then " ▾" else "")

def searchLines (f : Forest) : SearchIndex → List Key → List (String × Bool)
  | _, [] => []
  | x, k :: ks =>
    let m := x.isMatch f k
    let e := m.1.shouldExpand f k
    (searchLine f k m.2 e.2, m.2) :: searchLines f e.1 ks

def search (s : Settings) (query : String) : Job Nat := do
  let (f, scene) ← loadScene s
  let d := ((DebouncedSearch.new (.new f scene)).submit query).turn f 0
  let (x, shown) := d.1.index.visible f
  let lines := searchLines f x shown
  say (lines.map fun l => .line l.1)
  print ("📊 " ++ toString (lines.countP (·.2)) ++ " matches for '" ++ query ++ "'")
  return 0

def Command.job (s : Settings) : Command → Job Nat
  | register => Cli.register s
  | standardize force => Cli.standardize s force
  | checkNames => Cli.checkNames s
  | library c => Cli.library s c
  | handlers => Cli.handlers s
  | panelHandlers panels c => Cli.panelHandlers s panels c
  | search query => Cli.search s query

/-! ### Running -/

/-- What a finished run leaves behind. -/
structure Finished where
  exit : Except Failure Nat
  /-- What the command showed. -/
  progress : String
  /-- What is shown once the command is over. -/
  closing : String
  errors : String
  files : Files

def Finished.shown (done : Finished) : String := done.progress ++ done.closing

/-- A failure that the command line reports itself, with its report. -/
def reported? : Failure → Option String
  | .config fault => some fault.report
  | .unboundRegistry => Failure.unboundRegistry.message?
  | .libraryMissing scene => (Failure.libraryMissing scene).message?
  | .unitMissing path => (Failure.unitMissing path).message?
  | .conflict path => (Failure.conflict path).message?
  | .libraryUnused scene => (Failure.libraryUnused scene).message?
  | _ => none

/-- The counts of findings by kind, kinds in alphabetical order. -/
def countLine (r : Reporter) : String :=
  let counts := (r.summary.map fun p => (p.1.label, p.2)).mergeSort fun a b => decide (a.1 ≤ b.1)
  "📋 Diagnostics - " ++
    ", ".intercalate (counts.map fun c => c.1 ++ ": " ++ toString c.2)

/-- The line that closes a run with findings. -/
def closingText (r : Reporter) : String := if r.findings.isEmpty then "" else countLine r ++ "\n"

def finish (quiet : Bool) (d : Desk) (result : Except Failure Nat) : Finished :=
  let r := (Reporter.new !quiet).hearAll d.events
  match result with
  | .ok code => ⟨.ok code, r.shown, closingText r, "", d.files⟩
  | .error e =>
    match reported? e with
    | some text => ⟨.ok 1, r.shown, closingText r, "❌ " ++ text ++ "\n", d.files⟩
    | none => ⟨.error e, r.shown, closingText r, "", d.files⟩

/-- Runs one command line in a directory. -/
def run (base : DiskPath) (files : Files) (now : Timestamp) (answers args : List String) :
    Except Stop Finished :=
  match readInvocation args with
  | .error stop => .error stop
  | .ok i =>
    let job : Job Nat := do
      let s ← ofExcept ((← get).files.readSettings base i.config)
      i.command.job s
    let (result, d) := job.run ⟨files, answers, now, []⟩
    .ok (finish i.quiet d result)

end SceneBindings.Cli
