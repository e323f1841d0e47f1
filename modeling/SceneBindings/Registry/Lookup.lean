import SceneBindings.Registry.Basic

/-!
Looking elements up. A look-up changes nothing; it yields a node or the finding that says why there
is none.
-/

namespace SceneBindings

/-- What an element is asked for by: its path, or the key of its node. A key is shown in messages
the way it was given, and may be one that no node can have. -/
inductive ElementKey where
  | path (path : String)
  | key (given : String) (k : Option Key)
  deriving DecidableEq, Repr

namespace ElementKey

def ofPath (p : String) : ElementKey := path p

def ofKey (k : Key) : ElementKey := key (toString k) (some k)

def given : ElementKey → String
  | path p => p
  | key g _ => g

end ElementKey

namespace Registry

def noPath (path : String) : Diagnostic :=
  .warn .lookupMiss ("No reference found with path '" ++ path ++ "'") path

def noKey (given : String) : Diagnostic :=
  .warn .lookupMiss ("No reference found with instance key '" ++ given ++ "'") given

/-- The live node at a path. With a role, the element must be registered with that role. -/
def lookup (g : Registry) (f : Forest) (role : Option Capability) (path : String) :
    Except Diagnostic Key :=
  match g.findPath? path with
  | none => .error (noPath path)
  | some i =>
    let r := g.reference i
    match role.filter (· != r.capability) with
    | some c =>
      .error (.warn .lookupMiss
        ("Reference '" ++ r.name ++ "' is a " ++ r.capability.label ++ ", not a " ++ c.label) path)
    | none =>
      match r.binding.node? with
      | some k =>
        if r.isBound f then .ok k else .error (unbound r path)
      | none => .error (unbound r path)
where
  unbound (r : Reference) (path : String) : Diagnostic :=
    .warn .missingReference ("UI element '" ++ r.name ++ "' is not bound to a live node") path

def resolve (g : Registry) (f : Forest) : ElementKey → Except Diagnostic Key
  | .path p => g.lookup f none p
  | .key given k =>
    match k.bind g.byKey.get? with
    | some p => g.lookup f none p
    | none => .error (noKey given)

/-- What an accessor gets hold of. -/
inductive Fetched where
  | node (k : Key)
  | component (k : Key) (kind : ComponentKind)
  deriving DecidableEq, Repr

/-- The node of an element, or one of its components. -/
def fetch (g : Registry) (f : Forest) (key : ElementKey) (kind : Option ComponentKind) :
    Option Fetched × List Diagnostic :=
  match g.resolve f key with
  | .error d =>
    (none, [d, .warn .lookupMiss ("UI element not found for key '" ++ key.given ++ "'") key.given])
  | .ok k =>
    match kind with
    | none => (some (.node k), [])
    | some kind =>
      if f.hasComponent k kind then (some (.component k kind), [])
      else
        (none, [.warn .lookupMiss
          ("Component '" ++ kind.label ++ "' not found on UI element for key '" ++ key.given ++ "'")
          key.given])

/-- The node of an element that is registered as a panel. -/
def panel (g : Registry) (f : Forest) (key : ElementKey) : Option Key × List Diagnostic :=
  match g.resolve f key with
  | .error d =>
    (none, [d, .warn .lookupMiss ("Panel not found for key '" ++ key.given ++ "'") key.given])
  | .ok k =>
    let r := (g.findPath? ((g.byKey.get? k).getD "")).map g.reference
    if r.any fun r => r.capability == .panel then (some k, [])
    else
      (none, [.warn .lookupMiss ("UI element '" ++ key.given ++ "' is not a Panel") key.given])

end Registry

end SceneBindings
