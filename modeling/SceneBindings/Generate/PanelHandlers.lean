import SceneBindings.Emit.PanelHandler
import SceneBindings.Generate.Handlers

/-!
Writing a handler unit for each panel, or for those that are named.
-/

namespace SceneBindings.Generate

structure PanelHandlersDone where
  written : List DiskPath
  skipped : List DiskPath

def noPanel (name : String) : Diagnostic :=
  .warn .lookupMiss ("No panel named '" ++ name ++ "'") name

/-- A group with its panel. -/
abbrev Paneled := PanelGroup × Reference

def paneled (groups : List PanelGroup) : List Paneled :=
  groups.filterMap fun g => g.panel.map fun p => (g, p)

/-- A panel is selected by the key of its group or by its own name. -/
def isSelected (wanted : List String) (p : Paneled) : Bool :=
  wanted.contains p.1.key || wanted.contains p.2.name

/-- The names that select nothing, in alphabetical order. -/
def unmatched (wanted : List String) (ps : List Paneled) : List String :=
  SignatureDiff.sorted (wanted.filter fun n => !ps.any (isSelected [n]))

/-- Writes the handler of one panel. Without a decider a file that is there is skipped. -/
def panelHandler (scene : String) (s : Settings) (decider : Option Decider) (d : Desk)
    (p : Paneled) : Desk × Except Failure (DiskPath × Bool) :=
  let className := s.panelHandlerClass p.1.className
  let path := s.panelHandlerPath p.1.className
  if d.files.exists? path && decider.isNone then
    (d.print ("⏭️  Panel handler already exists, skipping: " ++ path.text), .ok (path, false))
  else
    let (signatures, ds) := Signature.collect [p.1]
    let d := d.reportAll ds
    let text := Emit.panelHandlerText scene className p.1.className
      (s.libraryRelative scene s.panelHandlersDir) p.2 signatures (stampOf s d)
    match d.writeUnit path text decider with
    | (d, .error e) => (d, .error e)
    | (d, .ok written) => (d, .ok (path, written.isSome))

def panelHandlerEach (scene : String) (s : Settings) (decider : Option Decider) :
    Desk → List Paneled → Desk × Except Failure PanelHandlersDone
  | d, [] => (d, .ok ⟨[], []⟩)
  | d, p :: ps =>
    match panelHandler scene s decider d p with
    | (d, .error e) => (d, .error e)
    | (d, .ok (path, written)) =>
      match panelHandlerEach scene s decider d ps with
      | (d, .error e) => (d, .error e)
      | (d, .ok done) =>
        (d, .ok (if written then { done with written := path :: done.written }
          else { done with skipped := path :: done.skipped }))

def panelHandlers (f : Forest) (g : Registry) (s : Settings) (d : Desk) (decider : Option Decider)
    (wanted : Option (List String)) : Desk × Except Failure PanelHandlersDone :=
  match requireLibrary g s d with
  | (d, .error e) => (d, .error e)
  | (d, .ok scene) =>
    let d := d.print ("🔧 Generating panel handlers for " ++ scene ++ "...")
    let (groups, ds) := PanelGroup.build f g
    let d := d.reportAll ds
    let all := paneled groups
    let (d, chosen) :=
      match wanted with
      | none => (d, all)
      | some names =>
        (d.reportAll ((unmatched names all).map noPanel), all.filter (isSelected names))
    match panelHandlerEach scene s decider d chosen with
    | (d, .error e) => (d, .error e)
    | (d, .ok done) =>
      (if chosen.isEmpty then d.print "⚠️  No panels to generate handlers for" else d, .ok done)

end SceneBindings.Generate
