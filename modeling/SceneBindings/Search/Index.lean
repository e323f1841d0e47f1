import SceneBindings.Diagnostic
import SceneBindings.Forest.Basic
import SceneBindings.Naming.Name
import SceneBindings.Text.Affix

/-!
Searching a scene by name. A node matches if its name contains the query, case ignored. Matches are
computed for a whole snapshot, the deepest nodes first; a node that was not in the snapshot is
decided when it is asked for. Every change of the scene discards what was computed.
-/

namespace SceneBindings

structure SearchIndex where
  scene : SceneId
  query : String
  /-- Whether the name of a node matches. -/
  direct : Table Key Bool
  /-- Whether a node or one below it matches. -/
  subtree : Table Key Bool
  /-- The nodes that have a match below them. -/
  expanded : List Key
  computed : Bool
  attached : Bool
  seen : Nat

namespace SearchIndex

def new (f : Forest) (s : SceneId) : SearchIndex :=
  ⟨s, "", .empty, .empty, [], false, true, f.changes.length⟩

def discard (x : SearchIndex) : SearchIndex :=
  { x with direct := .empty, subtree := .empty, expanded := [], computed := false }

/-- The index after it has taken in all changes of its scene. -/
def sync (x : SearchIndex) (f : Forest) : SearchIndex :=
  let unseen := f.changes.take (f.changes.length - x.seen)
  let x := { x with seen := f.changes.length }
  if x.attached && unseen.any (fun c => c.scene == x.scene) then x.discard else x

def nameMatches (query name : String) : Bool :=
  Text.occursIn (Text.lower query.toList) (Text.lower name.toList)

/-- Sets the query, without the white space around it. -/
def setQuery (x : SearchIndex) (query : String) : SearchIndex :=
  let query := Name.trim query
  if query == x.query then x else { x.discard with query }

/-! ### Computing a snapshot -/

def computeDirect (f : Forest) (query : String) (nodes : List Key) : Table Key Bool :=
  nodes.foldl (fun t k => t.put k (nameMatches query (f.node k).name)) .empty

def isDirect (direct : Table Key Bool) (k : Key) : Bool := (direct.get? k).getD false

/-- Enters the nodes of one depth, whose children have been entered. -/
def enterLevel (f : Forest) (direct : Table Key Bool) (nodes : List Key) (t : Table Key Bool) :
    Table Key Bool :=
  nodes.foldl (fun t k =>
    t.put k (isDirect direct k || (f.node k).children.any fun c => (t.get? c).getD false)) t

/-- Enters all nodes of depth less than `n`, the deepest first. -/
def enterLevels (f : Forest) (direct : Table Key Bool) (nodes : List Key) :
    Nat → Table Key Bool → Table Key Bool
  | 0, t => t
  | n + 1, t =>
    enterLevels f direct nodes n
      (enterLevel f direct (nodes.filter fun k => f.depth k == n) t)

/-- A depth that no node of a list reaches. -/
def levels (f : Forest) (nodes : List Key) : Nat :=
  nodes.foldl (fun n k => max n (f.depth k + 1)) 0

def computeSubtree (f : Forest) (direct : Table Key Bool) (nodes : List Key) : Table Key Bool :=
  enterLevels f direct nodes (levels f nodes) .empty

/-- Adds ancestors from the nearest up to the first that is there already. -/
def expandUp : List Key → List Key → List Key
  | expanded, [] => expanded
  | expanded, k :: ks => if expanded.contains k then expanded else expandUp (k :: expanded) ks

def computeExpanded (f : Forest) (direct : Table Key Bool) (nodes : List Key) : List Key :=
  nodes.foldl (fun e k => if isDirect direct k then expandUp e ((f.chain k).drop 1) else e) []

/-- Computes everything for the current query from one snapshot of the scene. -/
def refresh (x : SearchIndex) (f : Forest) (snapshot : Option (List Key)) : SearchIndex :=
  let x := { (x.sync f).discard with computed := true }
  if x.query.isEmpty then x
  else
    let nodes := snapshot.getD (f.walk x.scene)
    let direct := computeDirect f x.query nodes
    { x with
      direct
      subtree := computeSubtree f direct nodes
      expanded := computeExpanded f direct nodes }

/-! ### Questions -/

def ensure (x : SearchIndex) (f : Forest) : SearchIndex :=
  let x := x.sync f
  if x.computed then x else x.refresh f none

def decideDirect (x : SearchIndex) (f : Forest) (k : Key) : SearchIndex × Bool :=
  match x.direct.get? k with
  | some b => (x, b)
  | none =>
    let b := nameMatches x.query (f.node k).name
    ({ x with direct := x.direct.put k b }, b)

/-- The first of some nodes that `decide` holds of ends the search. -/
def anyOf (decide : SearchIndex → Key → SearchIndex × Bool) :
    SearchIndex → List Key → SearchIndex × Bool
  | x, [] => (x, false)
  | x, k :: ks =>
    match decide x k with
    | (x, true) => (x, true)
    | (x, false) => anyOf decide x ks

/-- Decides a node and, where needed, nodes below it to a depth less than `n`. -/
def decideSubtree (f : Forest) : Nat → SearchIndex → Key → SearchIndex × Bool
  | 0, x, _ => (x, false)
  | n + 1, x, k =>
    match x.subtree.get? k with
    | some b => (x, b)
    | none =>
      let own := x.decideDirect f k
      let found := if own.2 then own else anyOf (decideSubtree f n) own.1 (f.node k).children
      ({ found.1 with subtree := found.1.subtree.put k found.2 }, found.2)

def isMatch (x : SearchIndex) (f : Forest) (k : Key) : SearchIndex × Bool :=
  let x := x.sync f
  if x.query.isEmpty then (x, true) else (x.ensure f).decideDirect f k

def subtreeMatches (x : SearchIndex) (f : Forest) (k : Key) : SearchIndex × Bool :=
  let x := x.sync f
  if x.query.isEmpty then (x, true) else decideSubtree f f.nodes.length (x.ensure f) k

def shouldExpand (x : SearchIndex) (f : Forest) (k : Key) : SearchIndex × Bool :=
  let x := x.sync f
  if x.query.isEmpty then (x, false)
  else
    let x := x.ensure f
    (x, x.expanded.contains k)

def filterVisible (f : Forest) : SearchIndex → List Key → SearchIndex × List Key
  | x, [] => (x, [])
  | x, k :: ks =>
    let one := x.subtreeMatches f k
    let more := filterVisible f one.1 ks
    (more.1, if one.2 then k :: more.2 else more.2)

/-- The nodes to show, in hierarchy order. -/
def visible (x : SearchIndex) (f : Forest) : SearchIndex × List Key :=
  filterVisible f x (f.walk x.scene)

/-- No change of the scene reaches a disposed index. -/
def dispose (x : SearchIndex) (f : Forest) : SearchIndex :=
  { (x.sync f).discard with attached := false }

end SearchIndex

end SceneBindings
