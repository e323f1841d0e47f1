import SceneBindings.Session.State

/-!
Steps that give names and steps that search by name.
-/

namespace SceneBindings.Session

open Run

def namerState : Run Standardizer := do
  let n ← namer
  return ((← get).namers[n]?).getD (.new true true)

def runNaming : NamingStep → Run Answer
  | .new parts respect => do
    modify fun s =>
      { s with
        namers := s.namers ++ [Standardizer.new parts respect]
        namer := some s.namers.length }
    return .null
  | .proposedName h force => do
    let k ← node h
    return .text ((← namerState).proposedName (← forest) k force)
  | .standardize h force => do
    let _ ← namer
    match ← node? h with
    | some k => return .bool (← withNamer fun r => r.standardize k force)
    | none => return .bool false
  | .standardizeScene force => do
    let s := (← get).scene
    return .count (← withNamer fun r => r.standardizeScene s force)
  | .standardizeParts h label => do
    let c ← capability? label
    let k ← node h
    let f ← forest
    withNamer fun r => (r.standardizeParts k (c.getD (f.classify k)), .null)
  | .firstName h => do
    let k ← node h
    return .ofOption .text ((← namerState).firstName? k)
  | .restore h => do
    let k ← node h
    return .bool (← withNamer fun r => r.restore k)
  | .restoreAll => return .count (← withNamer Renaming.restoreAll)
  | .renamedCount => return .count (← namerState).renamed
  | .issues => do
    let s ← get
    let (total, bad) := s.forest.namingIssues s.scene
    return .list [.count total, .count bad.length, .texts bad]

/-! ### Searches -/

/-- What a search says of a node: whether it matches, whether it or one below it does, and whether
it is to be expanded. -/
def judge (k : Key) (x : SearchIndex) (f : Forest) : SearchIndex × List Bool :=
  let a := x.isMatch f k
  let b := a.1.subtreeMatches f k
  let c := b.1.shouldExpand f k
  (c.1, [a.2, b.2, c.2])

/-- Lets all tasks run, the oldest first, and notes each query that is applied. -/
def settle (f : Forest) (d : DebouncedSearch) : DebouncedSearch × List Answer :=
  (List.range d.tasks.length).foldl (fun (d, log) i =>
    match d.turn f i with
    | (d, true) =>
      let (index, shown) := d.index.visible f
      ({ d with index }, log ++ [.list [.text "results", .text index.query, .count shown.length]])
    | (d, false) => (d, log)) (d, [])

def noteAction (name : String) (d : DebouncedSearch) : Answer :=
  .list [.text name, .bool d.isPending, .count d.runs]

def act (f : Forest) (d : DebouncedSearch) : DebounceAction → DebouncedSearch × List Answer
  | .submit q => let d := d.submit q; (d, [noteAction "submit" d])
  | .cancel => let d := d.cancel; (d, [noteAction "cancel" d])
  | .wait => let (d, log) := settle f d; (d, log ++ [noteAction "wait" d])
  | .submitWhileWaiting q =>
    let (d, log) := settle f (d.submit q)
    (d, log ++ [noteAction "submit_while_waiting" d])

def actAll (f : Forest) (d : DebouncedSearch) :
    List DebounceAction → DebouncedSearch × List Answer
  | [] => (d, [])
  | a :: as =>
    let one := act f d a
    let more := actAll f one.1 as
    (more.1, one.2 ++ more.2)

def newIndex (id : String) (share : Option String) : Run Unit := do
  let cache ← share.mapM fun other => return (← indexSlot other).cache
  let s ← get
  let i ← match cache with
    | some i => pure i
    | none =>
      set { s with caches := s.caches ++ [PathCache.new s.forest] }
      pure s.caches.length
  withCache i fun c f => (c.attach f s.scene, ())
  modify fun s => { s with indexes := s.indexes.put id ⟨.new s.forest s.scene, i⟩ }

def runSearch : SearchStep → Run Answer
  | .new id share => do
    newIndex id share
    return .null
  | .query id q =>
    withIndex id fun x f =>
      let x := (x.sync f).setQuery (q.getD "")
      (x, .text x.query)
  | .refresh id nodes => do
    let _ ← indexSlot id
    let ks ← nodes.mapM fun hs => hs.mapM node
    withIndex id fun x f => (x.refresh f ks, .null)
  | .matches id h => do
    let x ← indexSlot id
    match ← node? h with
    | some k =>
      let answers ← withIndex id (judge k)
      return .list (answers.map .bool)
    | none =>
      if x.index.query.isEmpty then return .list [.bool true, .bool true, .bool false]
      else throw .noAttribute
  | .visible id =>
    withIndex id fun x f =>
      let (x, ks) := x.visible f
      (x, .texts (ks.map f.fullPath))
  | .dump id => do
    let rows ← withIndex id fun x f =>
      (f.walk x.scene).foldl (fun (x, rows) k =>
        let (x, answers) := judge k x f
        (x, rows ++ [Answer.list (.text (f.node k).name :: answers.map .bool)])) (x, [])
    return .list rows
  | .path id h => do
    let x ← indexSlot id
    let k ← node h
    return .text (← withCache x.cache fun c f => c.get f k)
  | .cached id h => do
    let x ← indexSlot id
    let k ← node h
    withCache x.cache fun c f =>
      let c := c.sync f
      (c, .list [.bool (c.paths.contains k), .count c.paths.size])
  | .dispose id => do
    let x ← indexSlot id
    withIndex id fun y f => (y.dispose f, ())
    withCache x.cache fun c f => ((c.detach f x.index.scene).clear f, ())
    return .null
  | .debounce id actions =>
    withIndex id fun x f =>
      let (d, log) := actAll f (.new x) actions
      (d.index, .list log)

end SceneBindings.Session
