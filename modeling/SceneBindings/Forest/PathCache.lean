import SceneBindings.Forest.Basic

/-!
Remembered canonical paths. A cache follows scenes: before each use it forgets the paths of all
nodes that an announced change has touched since its last use.
-/

namespace SceneBindings

structure PathCache where
  paths : Table Key String
  follows : List SceneId
  /-- The number of changes already taken in. -/
  seen : Nat

namespace PathCache

def new (f : Forest) : PathCache := ⟨.empty, [], f.changes.length⟩

def unseen (c : PathCache) (f : Forest) : List Change :=
  f.changes.take (f.changes.length - c.seen)

def forget (c : PathCache) (ks : List Key) : PathCache :=
  { c with paths := ⟨c.paths.entries.filter fun e => !ks.contains e.1⟩ }

/-- The cache after it has taken in all changes. -/
def sync (c : PathCache) (f : Forest) : PathCache :=
  let touched := ((c.unseen f).filter fun ch => c.follows.contains ch.scene).flatMap (·.affected)
  { c.forget touched with seen := f.changes.length }

/-- The remembered path of a node, or its full path, which is then remembered. -/
def get (c : PathCache) (f : Forest) (k : Key) : PathCache × String :=
  let c := c.sync f
  match c.paths.get? k with
  | some path => (c, path)
  | none => ({ c with paths := c.paths.put k (f.fullPath k) }, f.fullPath k)

def invalidate (c : PathCache) (f : Forest) (k : Key) : PathCache :=
  (c.sync f).forget (f.subtree k)

def attach (c : PathCache) (f : Forest) (s : SceneId) : PathCache :=
  let c := c.sync f
  if c.follows.contains s then c else { c with follows := c.follows ++ [s] }

def detach (c : PathCache) (f : Forest) (s : SceneId) : PathCache :=
  let c := c.sync f
  { c with follows := c.follows.erase s }

def clear (c : PathCache) (f : Forest) : PathCache := { c.sync f with paths := .empty }

end PathCache

end SceneBindings
