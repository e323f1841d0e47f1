import Mathlib.Data.List.Chain
import SceneBindings.Proofs.Registry.Changes

/-!
Runs of a registry beside its scenes: operations of the registry and edits of the forest in any
order. Every state that a run passes through comes from the one before by a single move.
-/

namespace SceneBindings

namespace Renaming

section Kept

variable {P : Forest → Prop} (hrename : ∀ f k name, P f → P (f.rename k name)) {r : Renaming}

include hrename

lemma kept_rename (h : P r.forest) (k : Key) (new : String) : P (r.rename k new).1.forest := by
  rw [rename]
  dsimp only
  split
  · exact h
  · exact hrename _ k new h

lemma kept_renameAll (h : P r.forest) (names : List (Key × String)) :
    P (r.renameAll names).forest := by
  induction names generalizing r with
  | nil => exact h
  | cons n names ih => exact ih (kept_rename hrename h n.1 n.2)

lemma kept_standardizeParts (h : P r.forest) (k : Key) (c : Capability) :
    P (r.standardizeParts k c).forest :=
  kept_renameAll hrename h _

/-- A visit keeps what every renaming keeps. -/
lemma kept_standardize (h : P r.forest) (k : Key) (force : Bool) :
    P (r.standardize k force).1.forest := by
  have hone := kept_rename hrename h k (Name.normalize (r.name k) (r.forest.classify k) true)
  rw [standardize]
  dsimp only
  split
  · exact h
  · split
    · exact kept_standardizeParts hrename hone k _
    · exact hone

end Kept

lemma noneRevived_standardize (r : Renaming) (k : Key) (force : Bool) :
    r.forest.NoneRevived (r.standardize k force).1.forest :=
  kept_standardize (fun f j name h => h.trans (.rename f j name)) (.refl r.forest) k force

end Renaming

/-- Where the registry of a run comes from. -/
inductive Registry.Origin where
  | blank
  | scene (s : SceneId)
  | document (d : RegistryDocument)

def Registry.Origin.registry (o : Registry.Origin) (f : Forest) : Registry :=
  match o with
  | blank => .blank f
  | scene s => .ofScene f s
  | document d => .ofDocument f d

namespace Workspace

inductive Action where
  | edit (e : Forest.Edit)
  | add (k : Option Key) (probe : Probe) (standardize : Option Bool)
  | addMany (probe : Probe) (ks : List (Option Key))
  | remove (key : ElementKey)
  | bindScene (s : SceneId)
  | repair (s : Option SceneId)
  | removeMissing
  | refreshPaths
  | setPanelActive (key : ElementKey) (isActive deactivateOthers keepLast : Bool)
  | togglePanel (key : ElementKey)
  | isPanelVisible (key : ElementKey)
  | activate (k : Key) (exclusive keepLast : Bool)
  | deactivate (k : Key)

def act (w : Workspace) : Action → Workspace
  | .edit e => { w with forest := w.forest.edit e }
  | .add k probe standardize => (w.add k probe standardize).1
  | .addMany probe ks => (w.addMany probe ks).1
  | .remove key => (w.remove key).1
  | .bindScene s => (w.bindScene s).1
  | .repair s => (w.repair s).1
  | .removeMissing => w.removeMissing.1
  | .refreshPaths => w.refreshPaths.1
  | .setPanelActive key isActive others keepLast => (w.setPanelActive key isActive others keepLast).1
  | .togglePanel key => (w.togglePanel key).1
  | .isPanelVisible key => (w.isPanelVisible key).1
  | .activate k exclusive keepLast => w.activate k exclusive keepLast
  | .deactivate k => w.deactivate k

def run (w : Workspace) (as : List Action) : Workspace := as.foldl act w

/-- The state in which a run starts. -/
def start (f : Forest) (o : Registry.Origin) (namer : Option Standardizer) : Workspace :=
  ⟨f, o.registry f, namer, []⟩

/-! ### States on the way -/

/-- The states after the elements of a list have been handled one by one. -/
def trail {α : Type} (step : Workspace → α → Workspace) (w : Workspace) : List α → List Workspace
  | [] => []
  | a :: as => step w a :: trail step (step w a) as

/-- The states after each node that is registered, up to one that makes the whole fail. -/
def addTrail (w : Workspace) (probe : Probe) : List (Option Key) → List Workspace
  | [] => []
  | k :: ks =>
    match w.add k probe none with
    | (w, .error _) => [w]
    | (w, .ok _) => w :: w.addTrail probe ks

/-- The states that an action passes through, one for each reference that it handles. -/
def stages (w : Workspace) : Action → List Workspace
  | .addMany probe ks => w.addTrail probe ks
  | .repair s =>
    match s <|> w.registry.scene with
    | some s => trail (fun w i => (w.repairOne s i).1) w w.missing
    | none => []
  | .removeMissing => trail drop w w.missing
  | .refreshPaths => trail (fun w i => (w.refreshOne i).1) w w.registry.ids
  | a => [w.act a]

/-- All states that a run passes through after its first. -/
def later (w : Workspace) : List Action → List Workspace
  | [] => []
  | a :: as => w.stages a ++ (w.act a).later as

def passed (w : Workspace) (as : List Action) : List Workspace := w :: w.later as

lemma getLastD_trail {α : Type} (step : Workspace → α → Workspace) (w : Workspace) (as : List α) :
    (trail step w as).getLastD w = as.foldl step w := by
  induction as generalizing w with
  | nil => rfl
  | cons a as ih => rw [trail, List.getLastD_cons, ih, List.foldl_cons]

lemma getLastD_addTrail (w : Workspace) (probe : Probe) (ks : List (Option Key)) :
    (w.addTrail probe ks).getLastD w = (w.addMany probe ks).1 := by
  induction ks generalizing w with
  | nil => rfl
  | cons k ks ih =>
    rw [addTrail, addMany]
    rcases w.add k probe none with ⟨u, _ | i⟩
    · rfl
    · rw [List.getLastD_cons, ih]
      dsimp only
      rcases u.addMany probe ks with ⟨v, _ | is⟩ <;> rfl

lemma repairEach_eq_foldl (w : Workspace) (s : SceneId) (is : List RefId) :
    (w.repairEach s is).1 = is.foldl (fun w i => (w.repairOne s i).1) w := by
  induction is generalizing w with
  | nil => rfl
  | cons i is ih => rw [repairEach, ih, List.foldl_cons]

lemma refreshEach_eq_foldl (w : Workspace) (is : List RefId) :
    (w.refreshEach is).1 = is.foldl (fun w i => (w.refreshOne i).1) w := by
  induction is generalizing w with
  | nil => rfl
  | cons i is ih => rw [refreshEach, ih, List.foldl_cons]

/-- The last state that an action passes through is the one that it ends in. -/
lemma getLastD_stages (w : Workspace) (a : Action) : (w.stages a).getLastD w = w.act a := by
  cases a with
  | addMany probe ks => exact getLastD_addTrail w probe ks
  | repair s =>
    rw [stages, act, repair]
    cases s <|> w.registry.scene with
    | none => rfl
    | some s => exact (getLastD_trail _ w _).trans (repairEach_eq_foldl w s _).symm
  | removeMissing => exact getLastD_trail drop w w.missing
  | refreshPaths => rw [stages, getLastD_trail, act, refreshPaths, refreshEach_eq_foldl]
  | _ => rfl

lemma getLastD_append {α : Type} (as bs : List α) (d : α) :
    (as ++ bs).getLastD d = bs.getLastD (as.getLastD d) := by
  induction as generalizing d with
  | nil => rfl
  | cons a as ih => rw [List.cons_append, List.getLastD_cons, ih, List.getLastD_cons]

/-- The last state that a run passes through is the one that it ends in. -/
lemma getLastD_later (w : Workspace) (as : List Action) : (w.later as).getLastD w = w.run as := by
  induction as generalizing w with
  | nil => rfl
  | cons a as ih => rw [later, getLastD_append, getLastD_stages, ih]; rfl

lemma run_mem_passed (w : Workspace) (as : List Action) : w.run as ∈ w.passed as := by
  rw [← getLastD_later]
  exact List.getLastD_mem_cons

/-! ### Chains of states -/

/-- What every step keeps holds along a chain of steps. -/
lemma forall_of_isChain {R : Workspace → Workspace → Prop} {P : Workspace → Prop}
    (hstep : ∀ {u v}, P u → R u v → P v) {w : Workspace} (hw : P w) {vs : List Workspace}
    (hc : (w :: vs).IsChain R) : ∀ v ∈ w :: vs, P v := by
  induction vs generalizing w with
  | nil => simpa using hw
  | cons u vs ih =>
    rw [List.isChain_cons_cons] at hc
    intro v hv
    rcases List.mem_cons.mp hv with rfl | hv
    · exact hw
    · exact ih (hstep hw hc.1) hc.2 v hv

/-- What every step needs to have held before holds along a chain of steps that ends with it. -/
lemma forall_of_isChain_of_last {R : Workspace → Workspace → Prop} {P : Workspace → Prop}
    (hstep : ∀ {u v}, R u v → P v → P u) {w : Workspace} {vs : List Workspace}
    (hc : (w :: vs).IsChain R) (hlast : P (vs.getLastD w)) : ∀ v ∈ w :: vs, P v := by
  induction vs generalizing w with
  | nil => simpa using hlast
  | cons u vs ih =>
    rw [List.isChain_cons_cons] at hc
    rw [List.getLastD_cons] at hlast
    have hrest := ih hc.2 hlast
    intro v hv
    rcases List.mem_cons.mp hv with rfl | hv
    · exact hstep hc.1 (hrest u List.mem_cons_self)
    · exact hrest v hv

lemma isChain_append_of_last {R : Workspace → Workspace → Prop} {w : Workspace}
    {us vs : List Workspace} (hu : (w :: us).IsChain R) (hv : (us.getLastD w :: vs).IsChain R) :
    (w :: (us ++ vs)).IsChain R := by
  induction us generalizing w with
  | nil => exact hv
  | cons u us ih =>
    rw [List.isChain_cons_cons] at hu
    rw [List.getLastD_cons] at hv
    exact .cons_cons hu.1 (ih hu.2 hv)

/-! ### Names for new elements -/

/-- The standardizer that an add renames with. -/
def namerToUse (w : Workspace) : Standardizer := w.namer.getD (.new true true)

/-- The name that an add gives to a node. -/
def newName (w : Workspace) (k : Key) : String := w.namerToUse.proposedName w.forest k false

/-- The path that the node would have under its new name is taken. -/
def NewPathTaken (w : Workspace) (k : Key) : Prop :=
  w.newName k ≠ w.name k ∧ w.registry.hasPath (w.renamedPath k (w.newName k)).2 = true

lemma renamedPath_frame (w : Workspace) (z : Option Standardizer) (k : Key) (name : String) :
    ∃ cache, { w with namer := z }.renamedPath k name =
      ({ w with registry := { w.registry with cache }, namer := z }, (w.renamedPath k name).2) := by
  simp only [renamedPath]
  split <;> exact ⟨_, rfl⟩

/-- The scene and the standardizer after a node has been standardized. -/
def standardized (w : Workspace) (k : Key) : Renaming :=
  (Renaming.standardize ⟨w.forest, w.namerToUse, w.events, none⟩ k false).1

/-- A new element is renamed unless its new path is taken, and refused if the renaming stops. -/
lemma standardizeNew_cases (w : Workspace) (k : Key) :
    (w.NewPathTaken k ∧ ∃ cache, w.standardizeNew k =
      ({ w with registry := { w.registry with cache }, namer := some w.namerToUse },
        .ok (some (w.renamedPath k (w.newName k)).2))) ∨
    (¬ w.NewPathTaken k ∧ ∃ cache, w.standardizeNew k =
      (⟨(w.standardized k).forest, { w.registry with cache }, some (w.standardized k).namer,
        (w.standardized k).events⟩, (w.standardized k).fault.elim (.ok none) .error)) := by
  obtain ⟨cache, hpath⟩ := renamedPath_frame w (some w.namerToUse) k (w.newName k)
  have hname : (w.namer.getD (.new true true)).proposedName w.forest k false = w.newName k := rfl
  have hhas : ∀ c path, ({ w.registry with cache := c } : Registry).hasPath path =
    w.registry.hasPath path := fun _ _ => rfl
  have hdone : (Renaming.standardize ⟨w.forest, w.namer.getD (.new true true), w.events, none⟩ k
    false).1 = w.standardized k := rfl
  rw [namerToUse] at hpath
  simp only [standardizeNew, name, hname, hpath]
  by_cases hkept : w.newName k = (w.forest.node k).name
  · refine .inr ⟨fun h => h.1 hkept, ?_⟩
    simp only [hkept, beq_self_eq_true, if_true, hdone]
    cases (w.standardized k).fault <;> exact ⟨_, rfl⟩
  · have hother : ¬ (w.newName k == (w.forest.node k).name) = true := fun h => hkept (eq_of_beq h)
    simp only [if_neg hother, hhas]
    cases htaken : w.registry.hasPath (w.renamedPath k (w.newName k)).2 with
    | true => exact .inl ⟨⟨hkept, htaken⟩, cache, rfl⟩
    | false =>
      refine .inr ⟨fun h => ?_, ?_⟩
      · rw [NewPathTaken, htaken] at h
        cases h.2
      · simp only [Bool.false_eq_true, if_false, hdone]
        cases (w.standardized k).fault <;> exact ⟨_, rfl⟩

lemma isAlive_standardizeNew {w : Workspace} {j : Key} (h : w.forest.IsAlive j) (k : Key) :
    (w.standardizeNew k).1.forest.IsAlive j := by
  obtain ⟨-, cache, hnew⟩ | ⟨-, cache, hnew⟩ := standardizeNew_cases w k
  · rw [hnew]
    exact h
  · rw [hnew]
    exact Renaming.kept_standardize (P := (Forest.IsAlive · j))
      (r := ⟨w.forest, w.namerToUse, w.events, none⟩) (fun f l name hl => Forest.isAlive_rename hl l name)
      h k false

/-! ### Moves -/

/-- The second state has the lists and indices of the first; all else may differ, but no node has
come back. -/
structure Quiet (w v : Workspace) : Prop where
  store : v.registry.store = w.registry.store
  categories : v.registry.categories = w.registry.categories
  byPath : v.registry.byPath = w.registry.byPath
  byKey : v.registry.byKey = w.registry.byKey
  forest : w.forest.NoneRevived v.forest

/-- A change of the registry after quiet work, or the rebuilding of both indices. -/
inductive Move (w v : Workspace) : Prop where
  | change (u : Workspace) (quiet : w.Quiet u) (change : u.registry.Change u.forest v.registry)
      (forest : u.forest.NoneRevived v.forest)
  | rebind (s : SceneId) (eq : v = (w.bindScene s).1)

namespace Quiet

variable {u v w : Workspace}

lemma refl (w : Workspace) : w.Quiet w := ⟨rfl, rfl, rfl, rfl, .refl _⟩

lemma trans (h : w.Quiet u) (h' : u.Quiet v) : w.Quiet v :=
  ⟨h'.store.trans h.store, h'.categories.trans h.categories, h'.byPath.trans h.byPath,
    h'.byKey.trans h.byKey, h.forest.trans h'.forest⟩

lemma move (h : w.Quiet v) : Move w v := .change v h .same (.refl _)

lemma report (w : Workspace) (d : Diagnostic) : w.Quiet (w.report d) := ⟨rfl, rfl, rfl, rfl, .refl _⟩

lemma reportAll (w : Workspace) (ds : List Diagnostic) : w.Quiet (w.reportAll ds) := by
  induction ds generalizing w with
  | nil => exact refl w
  | cons d ds ih => exact (report w d).trans (ih _)

lemma edit (w : Workspace) (e : Forest.Edit) : w.Quiet { w with forest := w.forest.edit e } :=
  ⟨rfl, rfl, rfl, rfl, .edit _ e⟩

lemma pathOf (w : Workspace) (k : Key) : w.Quiet (w.pathOf k).1 := ⟨rfl, rfl, rfl, rfl, .refl _⟩

lemma standardizeNew (w : Workspace) (k : Key) : w.Quiet (w.standardizeNew k).1 := by
  obtain ⟨-, cache, h⟩ | ⟨-, cache, h⟩ := standardizeNew_cases w k
  · rw [h]
    exact ⟨rfl, rfl, rfl, rfl, .refl _⟩
  · rw [h]
    exact ⟨rfl, rfl, rfl, rfl, Renaming.noneRevived_standardize _ k false⟩

lemma rejectDuplicate (w : Workspace) (k : Key) (path : String) :
    w.Quiet (w.rejectDuplicate k path) := report w _

lemma activate (w : Workspace) (k : Key) (exclusive keepLast : Bool) :
    w.Quiet (w.activate k exclusive keepLast) := by
  refine ⟨rfl, rfl, rfl, rfl, ?_⟩
  exact (Forest.NoneRevived.foldl (fun f o => .setActive f o false) _ _).trans (.setActive _ k true)

lemma deactivate (w : Workspace) (k : Key) : w.Quiet (w.deactivate k) :=
  ⟨rfl, rfl, rfl, rfl, .setActive _ k false⟩

lemma panel (w : Workspace) (key : ElementKey) : w.Quiet (w.panel key).1 := reportAll w _

lemma setPanelActive (w : Workspace) (key : ElementKey) (isActive others keepLast : Bool) :
    w.Quiet (w.setPanelActive key isActive others keepLast).1 := by
  have hp := panel w key
  rw [Workspace.setPanelActive]
  split
  · next h => rwa [h] at hp
  · next u k h =>
    rw [h] at hp
    refine hp.trans ?_
    dsimp only
    split
    · exact activate u k others keepLast
    · exact deactivate u k

lemma togglePanel (w : Workspace) (key : ElementKey) : w.Quiet (w.togglePanel key).1 := by
  have hp := panel w key
  rw [Workspace.togglePanel]
  split
  · next h => rwa [h] at hp
  · next u k h =>
    rw [h] at hp
    refine hp.trans ?_
    dsimp only
    split
    · exact deactivate u k
    · exact activate u k false false

lemma isPanelVisible (w : Workspace) (key : ElementKey) : w.Quiet (w.isPanelVisible key).1 := by
  have hp := panel w key
  rw [Workspace.isPanelVisible]
  split
  · next h => rwa [h] at hp
  · next h => rwa [h] at hp

end Quiet

/-! ### What the work on one node or reference comes to -/

/-- After quiet work an add may enter a reference that has been checked, to a node that is alive; the
indices know neither its path nor its node. -/
inductive Admits (w v : Workspace) : Prop where
  | quiet (h : w.Quiet v)
  | entered {u : Workspace} {r : Reference} {k : Key} (quiet : w.Quiet u)
      (binding : r.binding = .bound k) (alive : u.forest.IsAlive k)
      (free : u.registry.findPath? r.path = none) (new : u.registry.byKey.get? k = none)
      (checked : (StoredReference.mk r.name r.path r.capability).validate = .ok ())
      (eq : v = { u with registry := (u.registry.insert u.forest r).1 })

namespace Admits

variable {u w : Workspace}

lemma addAsIs (h : w.Quiet u) {k : Key} (ha : u.forest.IsAlive k) (probe : Probe) :
    w.Admits (u.addAsIs k probe).1 := by
  have hp := h.trans (.pathOf u k)
  rw [Workspace.addAsIs]
  dsimp only
  split
  · exact .quiet (hp.trans (.report _ _))
  · split
    · exact .quiet (hp.trans (.rejectDuplicate _ k _))
    · next hfree =>
      split
      · exact .quiet hp
      · next hchecked =>
        simp only [Bool.or_eq_true, not_or, Bool.not_eq_true, Registry.hasPath_eq_false,
          Registry.hasKey_eq_false] at hfree
        exact .entered (r := ⟨_, _, _, .bound k⟩) hp rfl ha hfree.1 hfree.2 hchecked rfl

lemma addNode (w : Workspace) (k : Key) (probe : Probe) (standardize : Bool) :
    w.Admits (w.addNode k probe standardize).1 := by
  rw [Workspace.addNode]
  split
  · exact .quiet (.report w _)
  · next halive =>
    have halive : w.forest.IsAlive k := eq_false_of_ne_true halive
    split
    · exact .quiet (.rejectDuplicate w k _)
    · split
      · have hz := Quiet.standardizeNew w k
        have hk := isAlive_standardizeNew halive k
        split
        · next h =>
          rw [h] at hz
          exact .quiet (hz.trans (.rejectDuplicate _ k _))
        · next h =>
          rw [h] at hz hk
          exact addAsIs hz hk probe
        · next h =>
          rw [h] at hz
          exact .quiet hz
      · exact addAsIs (.refl w) halive probe

lemma add (w : Workspace) (k : Option Key) (probe : Probe) (standardize : Option Bool) :
    w.Admits (w.add k probe standardize).1 := by
  cases k with
  | none => exact .quiet (.report w _)
  | some k => exact addNode w k probe _

end Admits

/-- The reference that an element is removed by its key. -/
def Resolves (w : Workspace) : ElementKey → RefId → Prop
  | .path p, i => w.registry.findPath? p = some i
  | .key _ k, i => ∃ l p, k = some l ∧ w.registry.byKey.get? l = some p ∧
      w.registry.findPath? p = some i

/-- A removal drops the reference that the key leads to, or only says that there is none. -/
lemma remove_eq (w : Workspace) (key : ElementKey) :
    (∃ i, w.Resolves key i ∧ w.remove key = (w.drop i, true)) ∨
      ∃ d, w.remove key = (w.report d, false) := by
  cases key with
  | path p =>
    rw [remove, removePath]
    split
    · exact .inr ⟨_, rfl⟩
    · split
      · next i hi => exact .inl ⟨i, hi, rfl⟩
      · exact .inr ⟨_, rfl⟩
  | key given k =>
    rw [remove, removeKey]
    split
    · next i hi =>
      obtain ⟨p, hk, hp⟩ := Option.bind_eq_some_iff.mp hi
      obtain ⟨l, hl, hlp⟩ := Option.bind_eq_some_iff.mp hk
      exact .inl ⟨i, ⟨l, p, hl, hlp, hp⟩, rfl⟩
    · exact .inr ⟨_, rfl⟩

lemma Resolves.found {w : Workspace} {key : ElementKey} {i : RefId} (h : w.Resolves key i) :
    ∃ p, w.registry.findPath? p = some i := by
  cases key with
  | path p => exact ⟨p, h⟩
  | key given k =>
    obtain ⟨-, p, -, -, hp⟩ := h
    exact ⟨p, hp⟩

lemma remove_cases (w : Workspace) (key : ElementKey) :
    (∃ i p, w.registry.findPath? p = some i ∧ (w.remove key).1 = w.drop i) ∨
      ∃ d, (w.remove key).1 = w.report d := by
  obtain ⟨i, hi, heq⟩ | ⟨d, heq⟩ := remove_eq w key
  · obtain ⟨p, hp⟩ := hi.found
    exact .inl ⟨i, p, hp, congrArg Prod.fst heq⟩
  · exact .inr ⟨d, congrArg Prod.fst heq⟩

/-- The node that a repair finds for a reference: the one at its path, or else one that looks like it. -/
def nodeFor? (w : Workspace) (s : SceneId) (i : RefId) : Option Key :=
  w.forest.findByPath? s (w.registry.reference i).path <|>
    possibleMatch? w.forest s (w.registry.reference i)

/-- A repair finds no node that has no entry yet; or the path of the node is taken and the reference loses
its own entry; or the reference is entered under that path. -/
inductive Repairs (w : Workspace) (s : SceneId) (i : RefId) : Workspace × Bool → Prop where
  | unmatched (known : ∀ k, w.nodeFor? s i = some k → w.registry.byKey.get? k ≠ none) :
      Repairs w s i (w, false)
  | barred {k : Key} (found : w.nodeFor? s i = some k) (new : w.registry.byKey.get? k = none)
      (taken : (w.registry.unindex i).findPath? (w.pathOf k).2 ≠ none) :
      Repairs w s i
        ({ (w.pathOf k).1 with registry := (w.pathOf k).1.registry.unindex i }, false)
  | fixed {k : Key} {e : Event} (found : w.nodeFor? s i = some k)
      (new : w.registry.byKey.get? k = none)
      (free : (w.registry.unindex i).findPath? (w.pathOf k).2 = none) :
      Repairs w s i (say { (w.pathOf k).1 with
        registry := (w.pathOf k).1.registry.relocate w.forest i (w.pathOf k).2
          (w.registry.reference i).name k } e, true)

lemma repairs_repairOne (w : Workspace) (s : SceneId) (i : RefId) :
    Repairs w s i (w.repairOne s i) := by
  have hfor : (w.forest.findByPath? s (w.registry.reference i).path <|>
    possibleMatch? w.forest s (w.registry.reference i)) = w.nodeFor? s i := rfl
  rw [repairOne]
  dsimp only
  rw [hfor]
  cases hfound : w.nodeFor? s i with
  | none => exact .unmatched fun k hk => absurd (hfound.symm.trans hk) nofun
  | some k =>
    dsimp only
    split
    · next hknown =>
      refine .unmatched fun j hj hnone => ?_
      obtain rfl := Option.some.inj (hfound.symm.trans hj)
      rw [Registry.hasKey_eq_false.mpr hnone] at hknown
      cases hknown
    · next hnew =>
      have hnew := Registry.hasKey_eq_false.mp (eq_false_of_ne_true hnew)
      have href : (w.pathOf k).1.registry.reference i = w.registry.reference i := rfl
      rw [← href, ← Registry.unindex_eq]
      split
      · next htaken =>
        refine .barred hfound hnew fun hnone => ?_
        rw [← Registry.hasPath_eq_false] at hnone
        exact Bool.false_ne_true (hnone.symm.trans htaken)
      · next hfree =>
        rw [Registry.index_modify_eq_relocate]
        exact .fixed hfound hnew (Registry.hasPath_eq_false.mp (eq_false_of_ne_true hfree))

/-- Following the node of a reference changes nothing if the reference is not bound or has the path that
is remembered for its node, and is refused if that path is taken; else the reference gets that path and
the name of its node. -/
inductive Refreshes (w : Workspace) (i : RefId) : Workspace × Bool → Prop where
  | unbound (lost : (w.registry.reference i).isBound w.forest = false) : Refreshes w i (w, false)
  | kept {k : Key} (binding : (w.registry.reference i).binding = .bound k)
      (alive : w.forest.IsAlive k) (same : (w.pathOf k).2 = (w.registry.reference i).path) :
      Refreshes w i ((w.pathOf k).1, false)
  | refused {k : Key} {d : Diagnostic} (binding : (w.registry.reference i).binding = .bound k)
      (alive : w.forest.IsAlive k) (other : (w.pathOf k).2 ≠ (w.registry.reference i).path)
      (taken : w.registry.findPath? (w.pathOf k).2 ≠ none) :
      Refreshes w i ((w.pathOf k).1.report d, false)
  | moved {k : Key} (binding : (w.registry.reference i).binding = .bound k)
      (alive : w.forest.IsAlive k) (other : (w.pathOf k).2 ≠ (w.registry.reference i).path)
      (free : w.registry.findPath? (w.pathOf k).2 = none) :
      Refreshes w i ({ (w.pathOf k).1 with
        registry := ({ (w.pathOf k).1.registry with
          byPath := w.registry.byPath.erase (w.registry.reference i).path }.modify i fun r =>
            { r with path := (w.pathOf k).2, name := w.name k }).index w.forest i }, true)

lemma refreshes_refreshOne (w : Workspace) (i : RefId) : Refreshes w i (w.refreshOne i) := by
  rw [refreshOne]
  dsimp only
  cases hb : (w.registry.reference i).binding with
  | bound k =>
    dsimp only [Binding.node?]
    split
    · next hlost => exact .unbound (by simpa using hlost)
    · next hbound =>
      have ha : w.forest.IsAlive k := by
        obtain ⟨l, hl, ha⟩ := Reference.isBound_iff.mp (by simpa using hbound)
        cases hb.symm.trans hl
        exact ha
      split
      · next hsame => exact .kept hb ha (eq_of_beq hsame)
      · next hother =>
        have hother : (w.pathOf k).2 ≠ (w.registry.reference i).path := by simpa using hother
        split
        · next htaken =>
          refine .refused hb ha hother fun hnone => ?_
          rw [← Registry.hasPath_eq_false] at hnone
          exact Bool.false_ne_true (hnone.symm.trans htaken)
        · next hfree =>
          exact .moved hb ha hother (Registry.hasPath_eq_false.mp (eq_false_of_ne_true hfree))
  | _ => exact .unbound (by rw [Reference.isBound, hb]; rfl)

namespace Move

variable {w : Workspace}

lemma add (w : Workspace) (k : Option Key) (probe : Probe) (standardize : Option Bool) :
    Move w (w.add k probe standardize).1 := by
  cases Admits.add w k probe standardize with
  | quiet h => exact h.move
  | @entered u r k quiet binding alive free new checked eq =>
    rw [eq]
    exact .change u quiet (.insert binding free new) (.refl _)

lemma drop {i : RefId} (hi : i ∈ w.registry.ids ∨ ∃ p, w.registry.findPath? p = some i) :
    Move w (w.drop i) := by
  exact .change w (.refl w) (.drop hi) (Registry.noneRevived_drop _ _ i)

lemma remove (w : Workspace) (key : ElementKey) : Move w (w.remove key).1 := by
  obtain ⟨i, p, hp, heq⟩ | ⟨d, heq⟩ := remove_cases w key
  · rw [heq]
    exact drop (.inr ⟨p, hp⟩)
  · rw [heq]
    exact (Quiet.report w d).move

lemma repairOne {i : RefId} (hi : i ∈ w.registry.ids)
    (hlost : (w.registry.reference i).isBound w.forest = false) (s : SceneId) :
    Move w (w.repairOne s i).1 := by
  have hcases := repairs_repairOne w s i
  generalize w.repairOne s i = r at hcases ⊢
  cases hcases with
  | unmatched => exact (Quiet.refl w).move
  | barred => exact .change _ (.pathOf w _) (.unindex hi hlost) (.refl _)
  | fixed found new free =>
    exact .change _ (.pathOf w _) (.repair hi hlost new free) (.refl _)

lemma refreshOne {i : RefId} (hi : i ∈ w.registry.ids)
    (hindexed : (w.registry.reference i).isBound w.forest = true →
      w.registry.findPath? (w.registry.reference i).path = some i) :
    Move w (w.refreshOne i).1 := by
  have hcases := refreshes_refreshOne w i
  generalize w.refreshOne i = r at hcases ⊢
  cases hcases with
  | unbound => exact (Quiet.refl w).move
  | kept => exact (Quiet.pathOf w _).move
  | refused => exact ((Quiet.pathOf w _).trans (.report _ _)).move
  | @moved k binding alive other free =>
    have hentry := hindexed (Reference.isBound_iff.mpr ⟨k, binding, alive⟩)
    refine .change _ (.pathOf w k) ?_ (.refl _)
    have hmoved := Registry.index_modify_erase_eq_relocate (f := w.forest)
      (g := (w.pathOf k).1.registry) (w.pathOf k).2 (w.name k) hentry binding
    exact hmoved ▸ .refresh hi binding alive free

end Move

end Workspace

end SceneBindings
