import SceneBindings.Session.NamingSteps
import SceneBindings.Session.UnitSteps

/-!
Running a session step by step. Each step is reported with all that it did, whether it failed or
not.
-/

namespace SceneBindings.Session

open Run

variable [Yaml] [Validator]

def summaryAnswer (r : Reporter) : Answer :=
  let severe (v : Diagnostic.Severity) := r.findings.countP fun d => d.severity == v
  .list [
    .object (r.summary.map fun p => (p.1.label, .count p.2)),
    .count (severe .warning),
    .count (severe .error),
    .object (Diagnostic.Kind.all.map fun k =>
      (k.label, .count (r.findings.countP fun d => d.kind == k)))]

/-- The depth to which listeners may call each other. -/
def callDepth : Nat := 200

/-- Runs a step; steps of listeners are run inside it, to a depth less than the first argument. -/
def runStep : Nat → Step → Run Answer
  | 0, _ => throw .tooDeep
  | n + 1, step => do
    notify
    match step with
    | .scene s => runScene s
    | .component s => runComponent (runStep n) s
    | .listen t event id andThen => runListen t event id andThen
    | .registry s => runRegistry s
    | .naming s => runNaming s
    | .search s => runSearch s
    | .units s => runUnits s
    | .binding s => runBinding s
    | .summary => return summaryAnswer (← get).reporter
    | .clearDiagnostics => do
      modify fun s => { s with reporter := { s.reporter with findings := [] } }
      return .count 0

/-- A file that is no directory, under its path below the project's directory. -/
abbrev ShownFile := String × Option FileContent

/-- The path of a file below the project's directory. -/
def shownPath? (x : Place) : Option String :=
  if base.names.isPrefixOf x then some ("/".intercalate (x.drop base.names.length)) else none

/-- The files of the project that differ between two states. -/
def changedFiles (old new : Files) : List ShownFile :=
  (old.changed new).filterMap fun c => (shownPath? c.1).map fun shown => (shown, c.2)

structure StepReport where
  answer : Except Failure Answer
  found : List Diagnostic
  shown : String
  fired : List (String × List Value)
  notified : List (String × Key)
  files : List ShownFile

/-- Runs one step and takes down what it did. -/
def report1 (s : State) (step : Step) : StepReport × State :=
  let fresh := { s with
    reporter := { s.reporter with shown := "" }, found := [], fired := [], notified := [] }
  let (answer, s) := (runStep callDepth step).run fresh
  let s := (notify.run s).2
  (⟨answer, s.found, s.reporter.shown, s.fired, s.notified, changedFiles s.baseline s.files⟩,
    { s with baseline := s.files })

def reportAll (s : State) : List Step → List StepReport
  | [] => []
  | step :: steps =>
    let (r, s) := report1 s step
    r :: reportAll s steps

/-- How a session begins. -/
structure Setup where
  /-- The described scene; without one the session has an empty scene. -/
  scene : Option Value
  /-- Whether all nodes with a role are registered at once. -/
  register : Bool
  echo : Bool

def registerAll : Run Unit := do
  let s ← get
  let ks := (s.forest.walk s.scene).filter fun k => s.forest.classify k != .unknown
  discard (tryRegistry fun w => w.addMany Probe.standard (ks.map some))

/-- The state in which the first step runs, with what was found on the way. -/
def Setup.start (u : Setup) : Except Failure State :=
  let reporter := Reporter.new u.echo
  let loaded : Forest.Loaded :=
    match u.scene with
    | some data => Forest.empty.loadScene data
    | none =>
      let made := Forest.empty.addScene defaultScene
      ⟨made.1, [], .ok made.2⟩
  match loaded.result with
  | .error e => .error e
  | .ok scene =>
    let s := State.start loaded.forest scene reporter
    let s := ((say loaded.events).run s).2
    if u.register then
      match registerAll.run s with
      | (.ok (), s) => .ok s
      | (.error e, _) => .error e
    else .ok s

/-- What was found while the session was set up, and the reports of its steps. -/
def run (u : Setup) (steps : List Step) : Except Failure (List Diagnostic × List StepReport) :=
  u.start.map fun s => (s.found, reportAll s steps)

end SceneBindings.Session
