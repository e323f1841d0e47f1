import SceneBindings.Emit.Library
import SceneBindings.Files.Writing
import SceneBindings.Settings

/-!
Writing the library unit of a registry's scene.
-/

namespace SceneBindings.Generate

/-- The date that a unit shows, if units are to show one. -/
def stampOf (s : Settings) (d : Desk) : Option String := if s.stamp then some d.now.text else none

def isLibraryThere (s : Settings) (d : Desk) (scene : String) : Bool :=
  d.files.exists? (s.libraryPath scene)

def ambiguous (name : String) : Diagnostic :=
  .warn .duplicate ("Duplicate element name '" ++ name ++ "' may produce ambiguous accessors") name

def elementCount (groups : List PanelGroup) : Nat := (groups.flatMap (·.elements)).length

/-- Writes the library; the result is its path, or nothing if the decision was against it. -/
def library (f : Forest) (g : Registry) (s : Settings) (d : Desk) (decider : Option Decider) :
    Desk × Except Failure (Option DiskPath) :=
  let scene := g.sceneName
  if scene.isEmpty then (d, .error .unboundRegistry)
  else
    let d := d.print ("📚 Generating UI library for " ++ scene ++ "...")
    let d := d.reportAll (g.duplicateNames.map ambiguous)
    let (groups, ds) := PanelGroup.build f g
    let d := d.reportAll ds
    match d.writeUnit (s.libraryPath scene) (Emit.libraryText scene groups (stampOf s d)) decider with
    | (d, .ok (some path)) =>
      (d.print ("📊 " ++ toString groups.length ++ " panel groups, " ++
        toString (elementCount groups) ++ " elements"), .ok (some path))
    | r => r

end SceneBindings.Generate
