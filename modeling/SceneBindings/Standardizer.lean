import SceneBindings.Diagnostic
import SceneBindings.Forest.Classify
import SceneBindings.Text.Affix

/-!
Giving nodes their canonical names. The parts of a composite widget are renamed after it, and the
name that a node had first is remembered, so that it can be given back.
-/

namespace SceneBindings

structure Standardizer where
  /-- Whether parts are renamed with their widget. -/
  renamesParts : Bool
  /-- Whether a name that already carries its type stays. -/
  respectsExisting : Bool
  renamed : Nat
  firstNames : Table Key String

namespace Standardizer

def new (renamesParts respectsExisting : Bool) : Standardizer :=
  ⟨renamesParts, respectsExisting, 0, .empty⟩

def keepsName (z : Standardizer) (f : Forest) (k : Key) (force : Bool) : Bool :=
  z.respectsExisting && !force && Name.isStandardized (f.node k).name (f.classify k)

/-- The name that a node would get. -/
def proposedName (z : Standardizer) (f : Forest) (k : Key) (force : Bool) : String :=
  if (f.classify k).typeWord?.isNone || z.keepsName f k force then (f.node k).name
  else
    let name := Name.normalize (f.node k).name (f.classify k) true
    if name.isEmpty then (f.node k).name else name

def firstName? (z : Standardizer) (k : Key) : Option String := z.firstNames.get? k

end Standardizer

/-! ### Roles of parts -/

namespace Forest

/-- The nodes below a node that carry a component of one of some kinds. -/
def below (f : Forest) (k : Key) (kinds : List ComponentKind) : List Key :=
  (f.subtree k).filter fun d => d != k && kinds.any (f.hasComponent d)

def texts (f : Forest) (k : Key) : List Key := f.below k [.text, .richText]

def pictures (f : Forest) (k : Key) : List Key :=
  (f.below k [.image, .rawImage]).filter fun d =>
    !([ComponentKind.button, .toggle, .slider].any (f.hasComponent d))

def given (o : Option Key) (role : String) : List (Key × String) :=
  match o with
  | some k => [(k, role)]
  | none => []

/-- The parts of a widget with their roles, in the order in which they are renamed, and what goes wrong
behind them. -/
structure Roles where
  parts : List (Key × String)
  fault : Option Failure

/-- The node in the place of a part, if one is there. -/
def readPart (c : Component) (name : String) : Except Failure (Option Key) :=
  match c.held? name with
  | some (.node k) => .ok (some k)
  | some (.value .null) => .ok none
  | _ => .error .noAttribute

def inputFieldParts (f : Forest) (k : Key) : Roles :=
  let texts := f.texts k
  match (f.component? k .inputField).filter fun c => (c.held? "placeholder").isSome with
  | none => ⟨[], if texts.isEmpty then none else some .noAttribute⟩
  | some c =>
    ⟨texts.map fun d =>
      let isPlaceholder := c.part? "placeholder" == some d ||
        Text.occursIn "placeholder".toList (Text.lower (f.node d).name.toList)
      (d, if isPlaceholder then "Placeholder" else "Text"), none⟩

def toggleParts (f : Forest) (k : Key) : Roles :=
  match f.component? k .toggle with
  | none => ⟨[], some .noAttribute⟩
  | some c =>
    match readPart c "graphic" with
    | .error e => ⟨[], some e⟩
    | .ok graphic =>
      ⟨given graphic "Checkmark" ++
        ((f.texts k).filter fun d => some d != graphic).map fun d => (d, "Label"), none⟩

def dropdownParts (f : Forest) (k : Key) : List (Key × String) :=
  let template := f.child? k "Template"
  let viewport := template.bind fun t => f.child? t "Viewport"
  given (f.child? k "Label") "Label" ++ given (f.child? k "Arrow") "Arrow" ++
    given template "Template" ++ given (template.bind fun t => f.child? t "Scrollbar") "Scrollbar" ++
    given viewport "Viewport" ++ given (viewport.bind fun v => f.child? v "Content") "Content"

/-- The area around a fill and the fill, if it stands in one. -/
def fillParts (f : Forest) (fill : Option Key) : List (Key × String) :=
  match fill with
  | none => []
  | some r =>
    match (f.node r).parent with
    | some p => [(p, "Fill_Area"), (r, "Fill")]
    | none => []

/-- The handle and the area in which it slides, unless this is the slider. -/
def handleParts (f : Forest) (k : Key) (handle : Option Key) : List (Key × String) :=
  match handle with
  | none => []
  | some r =>
    (r, "Handle") ::
      match (f.node r).parent with
      | some p => if p = k then [] else [(p, "Handle_Slide_Area")]
      | none => []

def sliderParts (f : Forest) (k : Key) : Roles :=
  match f.component? k .slider with
  | none => ⟨[], some .noAttribute⟩
  | some c =>
    match readPart c "fill_rect", readPart c "handle_rect" with
    | .error e, _ => ⟨[], some e⟩
    | .ok fill, .error e => ⟨f.fillParts fill, some e⟩
    | .ok fill, .ok handle => ⟨f.fillParts fill ++ f.handleParts k handle, none⟩

/-- The parts of a scroll area with their roles. -/
def scrollRoles : List (String × String) :=
  [("viewport", "Viewport"), ("content", "Content"), ("horizontal_scrollbar", "H_Scrollbar"),
    ("vertical_scrollbar", "V_Scrollbar")]

def readParts (c : Component) : List (String × String) → Roles
  | [] => ⟨[], none⟩
  | (name, role) :: more =>
    match readPart c name with
    | .error e => ⟨[], some e⟩
    | .ok part => ⟨given part role ++ (readParts c more).parts, (readParts c more).fault⟩

/-- All parts are asked for before the first one is renamed. -/
def scrollAreaParts (f : Forest) (k : Key) : Roles :=
  match f.component? k .scrollRect with
  | none => ⟨[], none⟩
  | some c =>
    if scrollRoles.all fun r => (c.held? r.1).isSome then readParts c scrollRoles
    else ⟨[], some .noAttribute⟩

/-- The parts that a node has in a role. A panel owns arbitrary content and names no parts; a role that
is read off a component fails without it. -/
def partRoles (f : Forest) (k : Key) (c : Capability) : Roles :=
  match c with
  | .inputField => f.inputFieldParts k
  | .toggle => f.toggleParts k
  | .dropdown => ⟨f.dropdownParts k, none⟩
  | .slider => f.sliderParts k
  | .scrollArea => f.scrollAreaParts k
  | .panel => ⟨[], none⟩
  | _ => ⟨(f.texts k).map (fun d => (d, "Text")) ++ (f.pictures k).map (fun d => (d, "Image")), none⟩

end Forest

/-- The base that a widget's name lends to the names of its parts; a bare type word lends none. -/
def partBase (name typeWord : String) : String :=
  let base := Name.withoutTypeSuffix name
  if Name.isBlank base || Name.lower base == Name.lower typeWord then "" else Name.pascal base

/-- The name of a part: base, type word and role, those that are not empty. -/
def partName (name : String) (c : Capability) (role : String) : String :=
  let word := c.typeWord?.getD ""
  "_".intercalate ([partBase name word, word, role].filter fun s => !s.isEmpty)

/-! ### Renaming -/

/-- What a renaming works on. -/
structure Renaming where
  forest : Forest
  namer : Standardizer
  events : List Event
  /-- What it stopped at. What was renamed by then stays so. -/
  fault : Option Failure

namespace Renaming

def name (r : Renaming) (k : Key) : String := (r.forest.node k).name

/-- Gives a node a name and keeps its first one. An empty or equal name changes nothing. -/
def rename (r : Renaming) (k : Key) (new : String) : Renaming × Bool :=
  let old := r.name k
  if new.isEmpty || old == new then (r, false)
  else
    let firstNames :=
      if r.namer.firstNames.contains k then r.namer.firstNames else r.namer.firstNames.put k old
    ({ r with
       forest := r.forest.rename k new
       namer := { r.namer with firstNames, renamed := r.namer.renamed + 1 }
       events := r.events ++ [.remark (old ++ " -> " ++ new)] }, true)

def renameAll (r : Renaming) (names : List (Key × String)) : Renaming :=
  names.foldl (fun r n => (r.rename n.1 n.2).1) r

/-- Renames the parts of a widget after it. -/
def standardizeParts (r : Renaming) (k : Key) (c : Capability) : Renaming :=
  let roles := r.forest.partRoles k c
  { r.renameAll (roles.parts.map fun p => (p.1, partName (r.name k) c p.2)) with fault := roles.fault }

/-- Gives a node its canonical name; its parts follow if it got one, or if `force` is set. Says
whether the node was renamed. -/
def standardize (r : Renaming) (k : Key) (force : Bool) : Renaming × Bool :=
  let c := r.forest.classify k
  if c.typeWord?.isNone || r.namer.keepsName r.forest k force then (r, false)
  else
    let done := r.rename k (Name.normalize (r.name k) c true)
    if done.2 && r.namer.renamesParts || force then (done.1.standardizeParts k c, done.2)
    else done

/-- The nodes below a node to a depth less than `n` and the node, children first. -/
def childrenFirst (f : Forest) : Nat → Key → List Key
  | 0, _ => []
  | n + 1, k => (f.node k).children.flatMap (childrenFirst f n) ++ [k]

/-- The nodes of a scene, children before their parents. -/
def bottomUp (f : Forest) (s : SceneId) : List Key :=
  (f.roots s).flatMap (childrenFirst f f.nodes.length)

/-- Standardizes the nodes of a list up to the first one at which this stops. -/
def visitAll (r : Renaming) (force : Bool) : List Key → Renaming
  | [] => r
  | k :: ks =>
    let r := (r.standardize k force).1
    if r.fault.isSome then r else r.visitAll force ks

/-- Standardizes every node of a scene and counts the renamings. -/
def standardizeScene (r : Renaming) (s : SceneId) (force : Bool) : Renaming × Nat :=
  let done := r.visitAll force (bottomUp r.forest s)
  (done, done.namer.renamed - r.namer.renamed)

/-- Gives a node its first name back, if it has another one now. -/
def restore (r : Renaming) (k : Key) : Renaming × Bool :=
  match r.namer.firstNames.get? k with
  | none => (r, false)
  | some name =>
    ({ r with
       forest := r.forest.rename k name
       namer := { r.namer with firstNames := r.namer.firstNames.erase k } }, true)

def restoreEach (r : Renaming) : List Key → Renaming × Nat
  | [] => (r, 0)
  | k :: ks =>
    if (r.forest.node k).destroyed then r.restoreEach ks
    else
      let one := r.restore k
      let more := one.1.restoreEach ks
      (more.1, more.2 + if one.2 then 1 else 0)

/-- Gives all first names back, destroyed nodes apart, and forgets them. -/
def restoreAll (r : Renaming) : Renaming × Nat :=
  let done := r.restoreEach r.namer.firstNames.keys
  ({ done.1 with namer := { done.1.namer with firstNames := .empty } }, done.2)

end Renaming

end SceneBindings
