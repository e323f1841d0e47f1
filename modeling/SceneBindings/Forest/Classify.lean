import SceneBindings.Capability
import SceneBindings.Forest.Basic
import SceneBindings.Naming.Name

/-!
The role of a node. Roles are tried in a fixed order, the interactive ones first, since a widget
usually carries an image too.
-/

namespace SceneBindings

/-- The kinds that make a role, with the role, in the order in which they are tried. -/
def roleOrder : List (List ComponentKind × Capability) :=
  [([.button], .button), ([.toggle], .toggle), ([.slider], .slider), ([.dropdown], .dropdown),
    ([.inputField], .inputField), ([.scrollRect, .scrollbar], .scrollArea), ([.text], .text),
    ([.richText], .richText), ([.image], .image), ([.rawImage], .rawImage), ([.canvas], .canvas),
    ([.canvasGroup], .canvasGroup)]

namespace Forest

/-- An image is a panel if it holds other nodes or its name says so. -/
def isPanelImage (f : Forest) (k : Key) : Bool :=
  !(f.node k).children.isEmpty || Name.looksLikePanel (f.node k).name

def classify (f : Forest) (k : Key) : Capability :=
  match roleOrder.find? fun r => r.1.any (f.hasComponent k) with
  | some (_, .image) => if f.isPanelImage k then .panel else .image
  | some (_, c) => c
  | none => .unknown

/-- The type that an accessor to a node fetches. A scroll area known by its bar alone has no
`ScrollRect`, so its accessor fetches the bar. -/
def accessorTypeOf (f : Forest) (c : Capability) (k : Option Key) : String :=
  match c, k with
  | .scrollArea, some k =>
    if !f.hasComponent k .scrollRect && f.hasComponent k .scrollbar then
      ComponentKind.scrollbar.label
    else c.accessorType
  | _, _ => c.accessorType

/-- Nodes that could carry a canonical name, and the paths of those that still have a default
name. -/
def namingIssues (f : Forest) (s : SceneId) : Nat × List String :=
  let named := (f.walk s).filter fun k => (f.classify k).typeWord?.isSome
  (named.length, (named.filter fun k => Name.isDefaultName (f.node k).name).map f.fullPath)

end Forest

end SceneBindings
