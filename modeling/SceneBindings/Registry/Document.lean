import SceneBindings.Capability
import SceneBindings.Diagnostic
import SceneBindings.Text.Blank

/-!
Registries as they are stored: the references by category. Bindings are not stored.
-/

namespace SceneBindings

/-- A canonical path is made of names that are not blank, joined by the separator. -/
def isCanonicalPath (path : String) : Bool :=
  (Text.splitAt '/' path.toList).all fun part => !part.all Text.isBlank

structure StoredReference where
  name : String
  path : String
  capability : Capability
  deriving DecidableEq, Repr

structure StoredCategory where
  name : String
  references : List StoredReference
  deriving DecidableEq, Repr

structure RegistryDocument where
  scene : String
  categories : List StoredCategory
  deriving DecidableEq, Repr

def Capability.read : Value → Checked Capability :=
  Diagnostic.readLabel Capability.all Capability.label

namespace StoredReference

def checkPath (s : String) : Option Issue.Cause :=
  if isCanonicalPath s then none else some (.broken (.malformedPath s))

def read [Validator] (fields : List (String × Value)) : Checked StoredReference :=
  (fun name path capability _ => mk name path capability)
    <$> required fields "name" Value.readNonempty
    <*> required fields "canonical_path" (fun v => (Validator.readString v).check checkPath)
    <*> required fields "capability" Capability.read
    <*> optional fields "instance_key" none (Value.readOptional Validator.readInt)

/-- The rules on a reference that was not read from a document. -/
def validate (r : StoredReference) : Checked Unit :=
  (fun _ _ => ())
    <$> (((Checked.ok r.name).check Value.tooShort?).within "name")
    <*> (((Checked.ok r.path).check checkPath).within "canonical_path")

def write (r : StoredReference) : Value :=
  .object [("name", .text r.name), ("canonical_path", .text r.path),
    ("capability", .text r.capability.label)]

end StoredReference

namespace StoredCategory

def read [Validator] (fields : List (String × Value)) : Checked StoredCategory :=
  mk <$> required fields "name" Value.readNonempty
    <*> optional fields "references" [] (Value.readList (Value.readRecord StoredReference.read))

def validateFrom (i : Nat) : List StoredReference → Checked Unit
  | [] => .ok ()
  | r :: rs => (fun _ _ => ()) <$> r.validate.within (toString i) <*> validateFrom (i + 1) rs

def validate (c : StoredCategory) : Checked Unit :=
  (fun _ _ => ())
    <$> (((Checked.ok c.name).check Value.tooShort?).within "name")
    <*> (validateFrom 0 c.references).within "references"

def write (c : StoredCategory) : Value :=
  .object [("name", .text c.name), ("references", .list (c.references.map StoredReference.write))]

end StoredCategory

namespace RegistryDocument

def readVersion [Validator] (v : Value) : Checked String :=
  (Validator.readString v).check fun s => if s = "1" then none else some (.broken .unknownVersion)

def read [Validator] (fields : List (String × Value)) : Checked RegistryDocument :=
  (fun _ scene categories => mk scene categories)
    <$> optional fields "schema_version" "1" readVersion
    <*> optional fields "scene" "" Validator.readString
    <*> optional fields "categories" [] (Value.readList (Value.readRecord StoredCategory.read))

def validateFrom (i : Nat) : List StoredCategory → Checked Unit
  | [] => .ok ()
  | c :: cs => (fun _ _ => ()) <$> c.validate.within (toString i) <*> validateFrom (i + 1) cs

def validate (d : RegistryDocument) : Checked RegistryDocument :=
  ((validateFrom 0 d.categories).within "categories").map fun _ => d

def write (d : RegistryDocument) : Value :=
  .object [("schema_version", .text "1"), ("scene", .text d.scene),
    ("categories", .list (d.categories.map StoredCategory.write))]

end RegistryDocument

end SceneBindings
