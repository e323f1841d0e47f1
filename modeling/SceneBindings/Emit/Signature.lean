import SceneBindings.Emit.Grouping

/-!
Hooks: which element fires which method of a handler unit, and how the method is called.
-/

namespace SceneBindings

structure Signature where
  /-- The name of the hook. -/
  name : String
  capability : Capability
  hook : HookSpec
  /-- The name of the element that fires it. -/
  element : String
  /-- Where the library keeps the element. -/
  accessor : String
  deriving DecidableEq, Repr

/-- What changed between two sets of hooks. -/
structure SignatureDiff where
  added : List String
  removed : List String
  deriving DecidableEq, Repr

namespace SignatureDiff

def empty : SignatureDiff := ⟨[], []⟩

def hasChanges (d : SignatureDiff) : Bool := !d.added.isEmpty || !d.removed.isEmpty

def sorted (names : List String) : List String :=
  names.eraseDups.mergeSort fun a b => decide (a ≤ b)

def between (previous current : List String) : SignatureDiff :=
  ⟨sorted (current.filter fun n => !previous.contains n),
    sorted (previous.filter fun n => !current.contains n)⟩

end SignatureDiff

namespace Signature

def hookName (h : HookSpec) (element : String) : String :=
  "on_" ++ Name.snake element ++ "_" ++ h.suffix

def parameters (s : Signature) : String :=
  match s.hook.argument with
  | some (name, type) => "self, " ++ name ++ ": " ++ type
  | none => "self"

/-- The signature of an element of a group, if the element fires an event. -/
def ofElement? (g : PanelGroup) (e : GroupElement) : Option Signature :=
  e.reference.capability.hook?.map fun h =>
    ⟨hookName h e.reference.name, e.reference.capability, h, e.reference.name,
      "UI." ++ g.className ++ "." ++ e.property⟩

/-- Keeps the first signature of each name and reports the others with their elements' paths. -/
def distinct (seen : List String) :
    List (Signature × String) → List Signature × List Diagnostic
  | [] => ([], [])
  | (s, path) :: more =>
    if seen.contains s.name then
      let rest := distinct seen more
      (rest.1, .warn .duplicate
        ("Hook '" ++ s.name ++ "' already wired, skipping '" ++ s.element ++ "'") path :: rest.2)
    else
      let rest := distinct (s.name :: seen) more
      (s :: rest.1, rest.2)

def position (c : Capability) : Nat := Capability.firing.idxOf c

/-- By role in wiring order, then by name. -/
def precedes (s t : Signature) : Bool :=
  position s.capability < position t.capability ||
    (position s.capability == position t.capability && decide (s.name ≤ t.name))

/-- The hooks of some groups, and what was found on the way. -/
def collect (groups : List PanelGroup) : List Signature × List Diagnostic :=
  let all := groups.flatMap fun g =>
    g.elements.filterMap fun e => (ofElement? g e).map fun s => (s, e.reference.path)
  let kept := distinct [] all
  (kept.1.mergeSort precedes, kept.2)

end Signature

end SceneBindings
