import SceneBindings.Proofs.Scene.Genuine
import SceneBindings.Proofs.Standardizing.Steps

/-!
The order in which a run visits the nodes of a scene, and where it stops: every node comes after all
that stand below it, and the run stops at the first one that gets another name and has parts that
cannot be read. Which nodes these are can be told before the run.
-/

namespace SceneBindings

namespace Forest

variable {f g : Forest} {c : Capability} {k : Key} {name : String}

/-! ### Parts under other names -/

namespace Renamed

variable (h : Renamed f g)

include h

lemma component?_eq (k : Key) : g.component? k = f.component? k := by
  funext kind
  rw [component?, component?, labelled?, labelled?, h.components]

lemma hasComponent_eq (k : Key) : g.hasComponent k = f.hasComponent k :=
  Forest.hasComponent_eq (h.shape k)

lemma below_eq (k : Key) : g.below k = f.below k := by
  funext kinds
  rw [below, below, subtree, subtree, h.length, h.subtreeTo_eq]
  simp only [h.hasComponent_eq]

lemma texts_eq (k : Key) : g.texts k = f.texts k := by rw [texts, texts, h.below_eq]

lemma pictures_eq (k : Key) : g.pictures k = f.pictures k := by
  rw [pictures, pictures, h.below_eq]
  simp only [h.hasComponent_eq]

/-- Fields and components name the same parts whatever the nodes are called. -/
lemma partRoles_eq (hc : c ∉ [Capability.inputField, .dropdown]) (k : Key) :
    g.partRoles k c = f.partRoles k c := by
  cases c with
  | inputField => exact absurd List.mem_cons_self hc
  | dropdown => exact absurd (List.mem_cons_of_mem _ List.mem_cons_self) hc
  | toggle => rw [partRoles, partRoles, toggleParts, toggleParts, h.component?_eq, h.texts_eq]
  | slider =>
    have hfill : g.fillParts = f.fillParts := by
      funext fill
      unfold fillParts
      simp only [h.parent]
    have hhandle : g.handleParts = f.handleParts := by
      funext k handle
      unfold handleParts
      simp only [h.parent]
    rw [partRoles, partRoles, sliderParts, sliderParts, h.component?_eq, hfill, hhandle]
  | scrollArea => rw [partRoles, partRoles, scrollAreaParts, scrollAreaParts, h.component?_eq]
  | panel => rfl
  | _ => simp only [partRoles, h.texts_eq, h.pictures_eq]

/-- Whether parts can be read does not depend on names. -/
lemma fault_partRoles (k : Key) (c : Capability) :
    (g.partRoles k c).fault = (f.partRoles k c).fault := by
  cases c with
  | inputField =>
    rw [partRoles, partRoles, inputFieldParts, inputFieldParts, h.component?_eq, h.texts_eq]
    dsimp only
    split <;> rfl
  | dropdown => rfl
  | _ => rw [h.partRoles_eq (by decide)]

end Renamed

/-! ### Parts of genuine components -/

lemma component_of_classify (kind : ComponentKind)
    (hkind : (c, kind) ∈ [(Capability.inputField, ComponentKind.inputField), (.toggle, .toggle),
      (.slider, .slider)])
    (h : f.classify k = c) : ∃ component, f.component? k kind = some component := by
  have honly : ∀ x ∈ roleOrder, x.2 = c → x.1 = [kind] := by
    simp only [List.mem_cons, Prod.mk.injEq, List.not_mem_nil, or_false] at hkind
    rcases hkind with ⟨rfl, rfl⟩ | ⟨rfl, rfl⟩ | ⟨rfl, rfl⟩ <;> decide
  have hnone : c ≠ .image ∧ c ≠ .panel ∧ c ≠ .unknown := by
    simp only [List.mem_cons, Prod.mk.injEq, List.not_mem_nil, or_false] at hkind
    rcases hkind with ⟨rfl, rfl⟩ | ⟨rfl, rfl⟩ | ⟨rfl, rfl⟩ <;> decide
  rw [classify] at h
  split at h
  · split at h
    · exact absurd h.symm hnone.2.1
    · exact absurd h.symm hnone.1
  · next x hfound =>
    have hhas := List.find?_some hfound
    rw [honly _ (List.mem_of_find?_eq_some hfound) h, List.any_cons, List.any_nil, Bool.or_false,
      hasComponent] at hhas
    exact Option.isSome_iff_exists.mp hhas
  · exact absurd h.symm hnone.2.2

lemma readPart_of_genuine {component : Component} (hc : component.Genuine)
    (hname : name ∈ component.kind.parts) :
    readPart component name = .ok (component.part? name) := by
  rw [readPart, Component.held?, Component.part?]
  cases component.parts.get? name with
  | some d => rfl
  | none =>
    rw [hc.unset name hname]
    rfl

/-- A part of the kind holds something, if only null. -/
lemma held?_isSome_of_genuine {component : Component} (hc : component.Genuine)
    (hname : name ∈ component.kind.parts) : (component.held? name).isSome = true := by
  rw [Component.held?]
  cases component.parts.get? name with
  | some d => rfl
  | none =>
    rw [hc.unset name hname]
    rfl

lemma fault_readParts {component : Component} (hc : component.Genuine)
    {names : List (String × String)} (hnames : ∀ n ∈ names, n.1 ∈ component.kind.parts) :
    (readParts component names).fault = none := by
  induction names with
  | nil => rfl
  | cons n names ih =>
    rw [List.forall_mem_cons] at hnames
    rw [readParts, readPart_of_genuine hc hnames.1]
    exact ih hnames.2

namespace Ordinary

variable (hf : f.Ordinary)

include hf

lemma component? {kind : ComponentKind} {component : Component}
    (h : f.component? k kind = some component) : component.Genuine ∧ component.kind = kind := by
  have hgenuine := hf.genuine k _ (mem_of_component? h)
  have hlabel := List.find?_some h
  refine ⟨hgenuine, (sameKey_label hgenuine (.new kind)).mp ?_⟩
  rwa [(Component.Genuine.new kind).label_eq]

/-- A node whose components are what their kinds say can read the parts that go with its role. -/
lemma fault_partRoles (k : Key) : (f.partRoles k (f.classify k)).fault = none := by
  cases hc : f.classify k with
  | inputField =>
    obtain ⟨component, hcomponent⟩ := component_of_classify .inputField (by decide) hc
    obtain ⟨hgenuine, hkind⟩ := hf.component? hcomponent
    have hheld : (component.held? "placeholder").isSome = true :=
      held?_isSome_of_genuine hgenuine (by rw [hkind]; decide)
    rw [partRoles, inputFieldParts, hcomponent, Option.filter_some, if_pos hheld]
  | toggle =>
    obtain ⟨component, hcomponent⟩ := component_of_classify .toggle (by decide) hc
    obtain ⟨hgenuine, hkind⟩ := hf.component? hcomponent
    rw [partRoles, toggleParts, hcomponent]
    dsimp only
    rw [readPart_of_genuine hgenuine (by rw [hkind]; decide)]
  | slider =>
    obtain ⟨component, hcomponent⟩ := component_of_classify .slider (by decide) hc
    obtain ⟨hgenuine, hkind⟩ := hf.component? hcomponent
    rw [partRoles, sliderParts, hcomponent]
    dsimp only
    rw [readPart_of_genuine hgenuine (by rw [hkind]; decide),
      readPart_of_genuine hgenuine (by rw [hkind]; decide)]
  | scrollArea =>
    rw [partRoles, scrollAreaParts]
    split
    · rfl
    · next component hcomponent =>
      obtain ⟨hgenuine, hkind⟩ := hf.component? hcomponent
      have hparts : ∀ n ∈ scrollRoles, n.1 ∈ component.kind.parts := by
        rw [hkind]
        decide
      have hheld : (scrollRoles.all fun n => (component.held? n.1).isSome) = true :=
        List.all_eq_true.mpr fun n hn => held?_isSome_of_genuine hgenuine (hparts n hn)
      rw [if_pos hheld]
      exact fault_readParts hgenuine hparts
  | _ => rfl

end Ordinary

end Forest

namespace Renaming

open Forest

variable {f : Forest} {r r' : Renaming} {s : SceneId} {d e j k : Key} {ks : List Key} {force : Bool}
  {new : String}

/-! ### The order of visits -/

lemma within_of_mem_childrenFirst {n : Nat} (h : j ∈ childrenFirst f n k) (hf : f.WellFormed) :
    f.Within k j :=
  hf.within_of_mem_subtreeTo (mem_childrenFirst.mp h)

/-- No node comes after one that it stands below. -/
lemma pairwise_childrenFirst (hf : f.WellFormed) (n : Nat) (k : Key) :
    (childrenFirst f n k).Pairwise fun a b => ¬ f.Within a b := by
  induction n generalizing k with
  | zero => exact .nil
  | succ n ih =>
    rw [childrenFirst, List.pairwise_append, List.pairwise_flatMap]
    refine ⟨⟨fun c _ => ih c, ?_⟩, List.pairwise_singleton _ _, fun x hx y hy => ?_⟩
    · refine List.Pairwise.imp_of_mem (fun {c d} hc hd hne x hx y hy => ?_) (hf.nodup k)
      have hc := (hf.children k c).mp hc
      have hd := (hf.children k d).mp hd
      exact not_within_of_apart (hf.not_within_sibling hc hd hne)
        (hf.not_within_sibling hd hc hne.symm) (within_of_mem_childrenFirst hx hf)
        (within_of_mem_childrenFirst hy hf)
    · obtain rfl := List.mem_singleton.mp hy
      obtain ⟨c, hc, hx⟩ := List.mem_flatMap.mp hx
      have hchild := (hf.children y c).mp hc
      exact fun h => hf.not_below_self y
        ((Relation.TransGen.head' hchild (within_of_mem_childrenFirst hx hf)).trans_left h)

lemma pairwise_bottomUp (hf : f.Housed s) : (bottomUp f s).Pairwise fun a b => ¬ f.Within a b := by
  have hwell := hf.toWellFormed
  rw [bottomUp, List.pairwise_flatMap]
  refine ⟨fun k _ => pairwise_childrenFirst hwell _ k, ?_⟩
  refine List.Pairwise.imp_of_mem (fun {a b} ha hb hne x hx y hy => ?_) hf.nodupRoots
  exact not_within_of_apart (fun h => hne (eq_of_within_root (hf.parentless b hb) h).symm)
    (fun h => hne (eq_of_within_root (hf.parentless a ha) h))
    (within_of_mem_childrenFirst hx hwell) (within_of_mem_childrenFirst hy hwell)

/-! ### One visit -/

/-- A node that a visit leaves alone: its role has no type word, or its name stays. -/
def leavesAlone (r : Renaming) (k : Key) (force : Bool) : Bool :=
  (r.forest.classify k).typeWord?.isNone || r.namer.keepsName r.forest k force

lemma nameable_of_not_leavesAlone (h : r.leavesAlone k force = false) : r.Nameable k := by
  rw [leavesAlone, Bool.or_eq_false_iff, ← Option.not_isSome, Bool.not_eq_false'] at h
  exact h.1

lemma isTidy_canonicalName_of_nameable (h : r.Nameable k) : IsTidy (r.canonicalName k) :=
  Name.isTidy_of_isStandardized (isStandardized_canonicalName h)

lemma proposedName_of_leavesAlone (h : r.leavesAlone k force = true) :
    r.namer.proposedName r.forest k force = r.name k := if_pos h

lemma proposedName_of_not_leavesAlone (h : r.leavesAlone k force = false) :
    r.namer.proposedName r.forest k force = r.canonicalName k := by
  have hne := (isTidy_canonicalName_of_nameable (nameable_of_not_leavesAlone h)).1
  refine (if_neg (ne_true_of_eq_false h)).trans ?_
  exact if_neg (mt String.isEmpty_iff.mp hne)

lemma rename_snd_iff (hne : new ≠ "") : (r.rename k new).2 = true ↔ new ≠ r.name k := by
  rw [rename]
  dsimp only
  split
  · next hno =>
    rw [Bool.or_eq_true, String.isEmpty_iff, beq_iff_eq] at hno
    exact iff_of_false Bool.false_ne_true fun h => h (hno.resolve_left hne).symm
  · next hno =>
    rw [Bool.or_eq_true, not_or, beq_iff_eq] at hno
    exact iff_of_true rfl (Ne.symm hno.2)

lemma renamed_rename (hd : r.forest.IsNode d) (new : String) :
    Renamed r.forest (r.rename d new).1.forest := by
  rw [rename]
  dsimp only
  split
  · exact .refl _
  · exact .rename hd new

/-- Whether a visit goes on to the parts of the node. -/
lemma visitsParts_iff (h : r.leavesAlone k force = false) :
    ((r.rename k (r.canonicalName k)).2 && r.namer.renamesParts || force) = true ↔
      force = true ∨ r.namer.renamesParts = true ∧
        r.namer.proposedName r.forest k force ≠ r.name k := by
  have hne := (isTidy_canonicalName_of_nameable (nameable_of_not_leavesAlone h)).1
  rw [Bool.or_eq_true, Bool.and_eq_true, rename_snd_iff hne, proposedName_of_not_leavesAlone h]
  tauto

@[simp] lemma fault_rename (r : Renaming) (k : Key) (new : String) :
    (r.rename k new).1.fault = r.fault := by
  rw [rename]
  dsimp only
  split <;> rfl

/-- A visit stops at the node: it goes on to the parts, and these cannot be read. -/
def Stuck (r : Renaming) (k : Key) (force : Bool) : Prop :=
  (force = true ∨ r.namer.renamesParts = true ∧
      r.namer.proposedName r.forest k force ≠ r.name k) ∧
    (r.forest.partRoles k (r.forest.classify k)).fault.isSome = true

instance (r : Renaming) (k : Key) (force : Bool) : Decidable (r.Stuck k force) :=
  inferInstanceAs (Decidable (_ ∧ _))

/-- A node without a type word has no parts that could not be read. -/
lemma not_stuck_of_leavesAlone (h : r.leavesAlone k force = true) : ¬ r.Stuck k force := by
  rintro ⟨hvisits, hfault⟩
  rw [leavesAlone, Bool.or_eq_true, Option.isNone_iff_eq_none] at h
  rcases h with hword | hkeeps
  · have hnone : ∀ c : Capability, c.typeWord? = none → (r.forest.partRoles k c).fault = none := by
      intro c
      cases c <;> first | exact fun _ => rfl | exact fun h => (nomatch h)
    rw [hnone _ hword] at hfault
    cases hfault
  · rcases hvisits with rfl | ⟨-, hnew⟩
    · rw [Standardizer.keepsName] at hkeeps
      simp at hkeeps
    · refine hnew (proposedName_of_leavesAlone ?_)
      rw [leavesAlone, hkeeps, Bool.or_true]

lemma fault_standardize (hfresh : r.fault = none) (hk : r.forest.IsNode k) :
    (r.standardize k force).1.fault.isSome = true ↔ r.Stuck k force := by
  rw [standardize]
  dsimp only
  rw [← leavesAlone]
  cases h : r.leavesAlone k force with
  | true =>
    rw [if_pos rfl]
    refine iff_of_false ?_ (not_stuck_of_leavesAlone h)
    rw [hfresh]
    exact Bool.false_ne_true
  | false =>
    have hvisits := visitsParts_iff h
    rw [canonicalName] at hvisits
    rw [if_neg Bool.false_ne_true, Stuck, ← hvisits]
    split
    · next hparts =>
      rw [and_iff_right hparts, ← (renamed_rename hk _).fault_partRoles]
      rfl
    · next hparts =>
      rw [fault_rename, hfresh]
      exact iff_of_false Bool.false_ne_true fun hstuck => hparts hstuck.1

/-- Whether a visit stops at a node is told by the name of the node. -/
lemma stuck_congr (h : Renamed r.forest r'.forest) (hname : r'.name k = r.name k)
    (hparts : r'.namer.renamesParts = r.namer.renamesParts)
    (hrespects : r'.namer.respectsExisting = r.namer.respectsExisting) :
    r'.Stuck k force ↔ r.Stuck k force := by
  have hclass : r'.forest.classify k = r.forest.classify k := classify_eq (h.shape k) hname
  have hproposed : r'.namer.proposedName r'.forest k force = r.namer.proposedName r.forest k force := by
    rw [name, name] at hname
    rw [Standardizer.proposedName, Standardizer.proposedName, Standardizer.keepsName,
      Standardizer.keepsName, hclass, hname, hrespects]
  rw [Stuck, Stuck, hproposed, hparts, hname, hclass, h.fault_partRoles]

/-! ### Runs -/

lemma name_standardize_of_not_within (hr : Orderly r.forest) (he : r.forest.IsNode e)
    (h : ¬ r.forest.Within e j) : (r.standardize e force).1.name j = r.name j :=
  ((works_standardize force hr he).forest.name j).resolve_right fun hboth => h hboth.1

/-- Visits of nodes in turn, wherever they stop. -/
def visits (r : Renaming) (ks : List Key) : Renaming :=
  ks.foldl (fun r k => (r.standardize k false).1) r

/-- A run visits the nodes up to some place, and all of them if it does not stop. -/
lemma exists_visits (r : Renaming) (ks : List Key) : ∃ before after, ks = before ++ after ∧
    r.visitAll false ks = r.visits before ∧ ((r.visitAll false ks).fault = none → after = []) := by
  induction ks generalizing r with
  | nil => exact ⟨[], [], rfl, rfl, fun _ => rfl⟩
  | cons k ks ih =>
    rw [visitAll]
    split
    · next hstop =>
      refine ⟨[k], ks, rfl, rfl, fun hnone => ?_⟩
      rw [hnone] at hstop
      cases hstop
    · obtain ⟨before, after, rfl, hvisits, hall⟩ := ih (r.standardize k false).1
      exact ⟨k :: before, after, rfl, hvisits, hall⟩

lemma visitAll_eq_visits (h : (r.visitAll false ks).fault = none) :
    r.visitAll false ks = r.visits ks := by
  obtain ⟨before, after, rfl, hvisits, hall⟩ := exists_visits r ks
  rw [hvisits, hall h, List.append_nil]

/-- A run that does not stop has not stopped before. -/
lemma fault_of_append {xs ys : List Key} (hfresh : r.fault = none)
    (h : (r.visitAll force (xs ++ ys)).fault = none) : (r.visitAll force xs).fault = none := by
  induction xs generalizing r with
  | nil => exact hfresh
  | cons k xs ih =>
    rw [List.cons_append, visitAll] at h
    rw [visitAll]
    split at h
    · next hstop =>
      rw [h] at hstop
      cases hstop
    · next hgoes =>
      rw [if_neg hgoes]
      exact ih (Option.not_isSome_iff_eq_none.mp hgoes) h

/-- A run stops if it meets a node at which a visit stops. -/
lemma fault_visitAll_iff (hr : Orderly r.forest) (hfresh : r.fault = none)
    (hks : ∀ k ∈ ks, r.forest.IsNode k) (hpairs : ks.Pairwise fun a b => ¬ r.forest.Within a b) :
    (r.visitAll force ks).fault = none ↔ ∀ k ∈ ks, ¬ r.Stuck k force := by
  induction ks generalizing r with
  | nil => exact iff_of_true hfresh (List.forall_mem_nil _)
  | cons k ks ih =>
    rw [List.forall_mem_cons] at hks ⊢
    rw [List.pairwise_cons] at hpairs
    rw [visitAll, ← fault_standardize hfresh hks.1]
    split
    · next hstop =>
      rw [Option.isSome_iff_ne_none] at hstop
      exact iff_of_false hstop fun h => h.1 (Option.isSome_iff_ne_none.mpr hstop)
    · next hgoes =>
      have hsteps : Steps r (r.standardize k force).1 := steps_standardize hr hks.1
      obtain ⟨horderly, hrenamed⟩ := orderly_of_steps hr hsteps
      obtain ⟨hparts, hrespects⟩ := settings_of_steps hsteps
      rw [and_iff_right hgoes, ih horderly (Option.not_isSome_iff_eq_none.mp hgoes)
        (fun j hj => hrenamed.isNode_iff.mpr (hks.2 j hj)) (by rw [hrenamed.within_eq]; exact hpairs.2)]
      refine forall₂_congr fun j hj => not_congr (stuck_congr hrenamed ?_ hparts hrespects)
      exact name_standardize_of_not_within hr hks.1 (hpairs.1 j hj)

/-- Whether a run over a scene stops is told by the scene as it was before. -/
lemma fault_standardizeScene_iff (hr : Orderly r.forest) (hf : r.forest.Housed s)
    (hfresh : r.fault = none) : (r.standardizeScene s force).1.fault = none ↔
      ∀ k ∈ r.forest.walk s, ¬ r.Stuck k force :=
  (fault_visitAll_iff hr hfresh (isNode_of_mem_bottomUp hr) (pairwise_bottomUp hf)).trans
    (forall_congr' fun _ => imp_congr mem_bottomUp Iff.rfl)

/-- Visits go on where components are what their kinds say. -/
lemma not_stuck_of_ordinary (h : r.forest.Ordinary) (k : Key) (force : Bool) : ¬ r.Stuck k force := by
  rintro ⟨-, hfault⟩
  rw [h.fault_partRoles] at hfault
  cases hfault

end Renaming

end SceneBindings
