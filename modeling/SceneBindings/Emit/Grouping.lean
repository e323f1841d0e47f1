import SceneBindings.Forest.Classify
import SceneBindings.Registry.Basic

/-!
References grouped by panel for the emitted units. The name of a reference says which panel it
belongs to and what it is called there; all choices among equals are made after sorting, so the
order of registration does not show.
-/

namespace SceneBindings

/-- An element of a group under its property name, with the type that its accessor fetches. -/
structure GroupElement where
  property : String
  reference : Reference
  accessor : String
  deriving DecidableEq, Repr

structure PanelGroup where
  key : String
  /-- The panel that is shown and hidden with the group. -/
  panel : Option Reference
  elements : List GroupElement
  deriving DecidableEq, Repr

namespace PanelGroup

/-- The group of names without words. -/
def defaultKey : String := "Main"

def className (g : PanelGroup) : String := Name.escapeKeyword (Name.sanitize g.key)

def isPanelWord (w : String) : Bool := Name.lower w == "panel"

/-- The position of the word that names the panel, if it is not the first. -/
def panelIndex? (words : List String) : Option Nat :=
  (words.findIdx? isPanelWord).filter (0 < ·)

/-- The words before the panel word, or else the first word. -/
def groupKey (name : String) : String :=
  let words := nameParts name
  match panelIndex? words with
  | some i => String.join (words.take i)
  | none => words.head?.getD defaultKey

/-- The words after the panel word, or else after the first word, as an identifier. -/
def propertyName (name : String) : String :=
  let words := nameParts name
  let rest :=
    match panelIndex? words with
    | some i => words.drop (i + 1)
    | none => words.drop 1
  Name.escapeKeyword (Name.sanitize (if rest.isEmpty then name else "_".intercalate rest))

/-- The group that a reference belongs to. -/
def keyOf (r : Reference) : String := Name.sanitize (groupKey r.name)

/-- The order of emission: by role, then name, then path. -/
def emissionKey (r : Reference) : List String := [r.capability.label, r.name, r.path]

def panelKey (r : Reference) : List String := [r.name, r.path]

/-- A reference with its number. -/
abbrev Numbered := RefId × Reference

/-- The order of lists of texts that the first difference decides. -/
def keyLe : List String → List String → Bool
  | [], _ => true
  | _ :: _, [] => false
  | a :: as, b :: bs => decide (a < b) || (a == b && keyLe as bs)

def sortBy (key : Reference → List String) (rs : List Numbered) : List Numbered :=
  rs.mergeSort fun a b => keyLe (key a.2) (key b.2)

/-- The elements that a list of references makes, with a finding for each that is skipped because
its property name is taken. -/
def elementsFrom (f : Forest) (key : String) (seen : List String) :
    List Reference → List GroupElement × List Diagnostic
  | [] => ([], [])
  | r :: rs =>
    let property := propertyName r.name
    if seen.contains property then
      let more := elementsFrom f key seen rs
      (more.1, .warn .duplicate
        ("Duplicate accessor '" ++ key ++ "." ++ property ++ "', skipping '" ++ r.name ++ "'")
        r.path :: more.2)
    else
      let more := elementsFrom f key (property :: seen) rs
      let node := if r.isBound f then r.binding.node? else none
      (⟨property, r, f.accessorTypeOf r.capability node⟩ :: more.1, more.2)

/-- The group that a bucket of references makes. -/
def ofBucket (f : Forest) (key : String) (bucket : List Numbered) :
    PanelGroup × List Diagnostic :=
  let sorted := sortBy emissionKey bucket
  let panel := (sortBy panelKey (sorted.filter fun r => r.2.capability == .panel)).head?
  let rest := sorted.filter fun r => panel.map (·.1) != some r.1
  let made := elementsFrom f key [] (rest.map (·.2))
  (⟨key, panel.map (·.2), made.1⟩, made.2)

def malformed (r : Reference) : Diagnostic :=
  .warn .malformed ("Skipping '" ++ r.name ++ "': malformed path") r.path

/-- The groups of a registry in the order of their keys, and what was found on the way. -/
def build (f : Forest) (g : Registry) : List PanelGroup × List Diagnostic :=
  let all : List Numbered := g.ids.map fun i => (i, g.reference i)
  let bad := all.filter fun r => !isCanonicalPath r.2.path
  let good := all.filter fun r => isCanonicalPath r.2.path
  let keys := ((good.map fun r => keyOf r.2).eraseDups).mergeSort fun a b => decide (a ≤ b)
  let made := keys.map fun k => ofBucket f k (good.filter fun r => keyOf r.2 == k)
  (made.map (·.1), bad.map (fun r => malformed r.2) ++ made.flatMap (·.2))

end PanelGroup

end SceneBindings
