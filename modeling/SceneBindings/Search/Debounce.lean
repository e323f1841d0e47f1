import SceneBindings.Search.Index

/-!
Queries that wait for a quiet moment. A query that is submitted takes the place of one that still
waits; a query that was superseded or cancelled is never applied.
-/

namespace SceneBindings

inductive SearchTask.Phase where
  | waiting
  /-- Told to stop, which it has not noticed yet. -/
  | stopping
  | stopped
  | applied
  deriving DecidableEq, Repr

structure SearchTask where
  query : String
  phase : SearchTask.Phase
  deriving DecidableEq, Repr

def SearchTask.isOpen (t : SearchTask) : Bool := t.phase == .waiting || t.phase == .stopping

def SearchTask.stop (t : SearchTask) : SearchTask :=
  if t.phase = .waiting then { t with phase := .stopping } else t

/-- All tasks ever submitted, the latest last, and the index that they are applied to. -/
structure DebouncedSearch where
  tasks : List SearchTask
  index : SearchIndex
  /-- The number of queries applied. -/
  runs : Nat

namespace DebouncedSearch

def new (x : SearchIndex) : DebouncedSearch := ⟨[], x, 0⟩

def isPending (d : DebouncedSearch) : Bool := d.tasks.getLast?.any SearchTask.isOpen

def mapLast (g : SearchTask → SearchTask) : List SearchTask → List SearchTask
  | [] => []
  | [t] => [g t]
  | t :: ts => t :: mapLast g ts

def cancel (d : DebouncedSearch) : DebouncedSearch := { d with tasks := mapLast .stop d.tasks }

def submit (d : DebouncedSearch) (query : String) : DebouncedSearch :=
  { d with tasks := mapLast .stop d.tasks ++ [⟨query, .waiting⟩] }

/-- Lets one task run to its end. Says whether its query was applied. -/
def turn (d : DebouncedSearch) (f : Forest) (i : Nat) : DebouncedSearch × Bool :=
  match d.tasks[i]? with
  | some ⟨query, .waiting⟩ =>
    (⟨d.tasks.set i ⟨query, .applied⟩, ((d.index.sync f).setQuery query).refresh f none,
      d.runs + 1⟩, true)
  | some ⟨query, .stopping⟩ => ({ d with tasks := d.tasks.set i ⟨query, .stopped⟩ }, false)
  | _ => (d, false)

end DebouncedSearch

end SceneBindings
