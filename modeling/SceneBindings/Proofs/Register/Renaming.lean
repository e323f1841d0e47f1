import SceneBindings.Proofs.Naming.PartNames
import SceneBindings.Proofs.Scene.Rewriting
import SceneBindings.Proofs.Search.CatchingUp

/-!
What standardizing a node can change: the names of the node and of nodes below it, and nothing else.
New names can be stored, and a path cache that follows the scene stays right.
-/

namespace SceneBindings

/-- The cache follows the scene, and gives no wrong path for a node of it. -/
structure PathCache.Trusted (f : Forest) (s : SceneId) (c : PathCache) : Prop where
  settled : Settled f s c
  seen : c.seen ≤ f.changes.length
  follows : c.follows.contains s = true

/-- The shape of a node, its name and its components are all of it. -/
lemma Node.eq_of_shape {n m : Node} (hshape : n.shape = m.shape) (hname : n.name = m.name)
    (hcomponents : n.components = m.components) : n = m := by
  cases n
  cases m
  simp only [Node.shape, Node.mk.injEq] at hshape hname hcomponents ⊢
  exact ⟨hname, hshape.2.1, hshape.2.2.1, hcomponents, hshape.2.2.2.2⟩

namespace Forest

variable {f g h : Forest} {s : SceneId} {d j k : Key} {name : String}

lemma Reshaped.housed (hfg : Reshaped f g) (hf : f.Housed s) : g.Housed s :=
  hf.congr (fun j => (congrArg Node.parent (hfg.shape j) :))
    (fun j => (congrArg Node.children (hfg.shape j) :))
    (fun j => (congrArg Node.scene (hfg.shape j) :)) (roots_of_scenes hfg.scenes)
    (Nat.le_of_eq hfg.length.symm) (Nat.le_of_eq (congrArg List.length hfg.scenes.symm))

lemma Reshaped.within_eq (hfg : Reshaped f g) : g.Within = f.Within := by
  rw [Within, Within, hfg.isChild_eq]

lemma Reshaped.fullPath_eq (hfg : Reshaped f g)
    (hnames : ∀ a, f.Within a k → (g.node a).name = (f.node a).name) :
    g.fullPath k = f.fullPath k := by
  rw [fullPath, fullPath, hfg.chain_eq]
  refine congrArg _ (List.map_congr_left fun a ha => hnames a ?_)
  exact within_of_mem_chainUpTo (List.mem_reverse.mp ha)

/-- Which components a node has is read off their labels. -/
lemma hasComponent_iff {kind : ComponentKind} : f.hasComponent k kind = true ↔
    ∃ c ∈ (f.node k).shape.components, c.label.sameKey (.text kind.label) = true := by
  rw [hasComponent, component?, labelled?, List.find?_isSome, Node.shape]
  simp only [List.mem_map, exists_exists_and_eq_and, Component.label_bare]

lemma hasComponent_eq (hshape : (g.node k).shape = (f.node k).shape) :
    g.hasComponent k = f.hasComponent k := by
  funext kind
  rw [Bool.eq_iff_iff, hasComponent_iff, hasComponent_iff, hshape]

/-- The role of a node is read off its kinds, its children and its name. -/
lemma classify_eq (hshape : (g.node k).shape = (f.node k).shape)
    (hname : (g.node k).name = (f.node k).name) : g.classify k = f.classify k := by
  have hchildren : (g.node k).children = (f.node k).children := (congrArg Node.children hshape :)
  rw [classify, classify, hasComponent_eq hshape, isPanelImage, isPanelImage, hchildren, hname]

/-- A new name can only make a picture a panel, or a panel a picture. -/
lemma classify_cases (hshape : (g.node k).shape = (f.node k).shape) :
    g.classify k = f.classify k ∨
      (f.classify k = if f.isPanelImage k then .panel else .image) ∧
        g.classify k = if g.isPanelImage k then .panel else .image := by
  rw [classify, classify, hasComponent_eq hshape]
  split
  · exact .inr ⟨rfl, rfl⟩
  · exact .inl rfl
  · exact .inl rfl

/-- Whether a node has a role is read off its kinds alone. -/
lemma classify_eq_unknown (hshape : (g.node k).shape = (f.node k).shape) :
    g.classify k = .unknown ↔ f.classify k = .unknown := by
  rcases classify_cases hshape with h | ⟨hf, hg⟩
  · rw [h]
  · rw [hf, hg]
    split <;> split <;> simp

lemma typeWord?_isSome_classify (hshape : (g.node k).shape = (f.node k).shape) :
    (g.classify k).typeWord?.isSome = (f.classify k).typeWord?.isSome := by
  rcases classify_cases hshape with h | ⟨hf, hg⟩
  · rw [h]
  · rw [hf, hg]
    split <;> split <;> rfl

lemma node_rename (hd : f.IsNode d) (name : String) (j : Key) :
    (f.rename d name).node j = if j = d then { f.node d with name } else f.node j := by
  by_cases hsame : (f.node d).name = name
  · rw [Forest.rename, if_pos hsame]
    split
    · next hj => rw [hj, ← hsame]
    · rfl
  · rw [Forest.rename, if_neg hsame, node_announce, node_modify]
    simp only [show (f.node? d).isSome = true from hd, and_true]

/-- The second forest comes from the first by renaming nodes. -/
structure Renamed (f g : Forest) : Prop extends Reshaped f g where
  components : ∀ j, (g.node j).components = (f.node j).components

namespace Renamed

lemma refl (f : Forest) : Renamed f f := ⟨.refl f, fun _ => rfl⟩

lemma trans (hfg : Renamed f g) (hgh : Renamed g h) : Renamed f h :=
  ⟨hfg.toReshaped.trans hgh.toReshaped, fun j => (hgh.components j).trans (hfg.components j)⟩

lemma rename (hd : f.IsNode d) (name : String) : Renamed f (f.rename d name) := by
  by_cases hsame : (f.node d).name = name
  · rw [Forest.rename, if_pos hsame]
    exact .refl f
  · have heq : f.rename d name = (f.modify d fun n => { n with name }).announce d := by
      rw [Forest.rename, if_neg hsame]
    have hnode := node_rename hd name
    refine ⟨⟨?_, ?_, fun j => ?_⟩, fun j => ?_⟩
    · rw [heq, nodes_announce, length_modify]
    · rw [heq, scenes_announce, scenes_modify]
    · rw [hnode]
      split
      · next hj => rw [hj]; rfl
      · rfl
    · rw [hnode]
      split
      · next hj => rw [hj]
      · rfl

lemma wellFormed (h : Renamed f g) (hf : f.WellFormed) : g.WellFormed :=
  hf.congr h.parent (fun j => (congrArg Node.children (h.shape j) :)) fun s r hr =>
    h.isNode_iff.mpr (hf.roots s r (roots_of_scenes h.scenes s ▸ hr))

lemma partsBelow (h : Renamed f g) (hf : f.PartsBelow) : g.PartsBelow := by
  intro j c hc name d hd
  rw [Below, h.isChild_eq]
  rw [h.components] at hc
  exact hf j c hc name d hd

end Renamed

lemma Ordinary.renamed (hf : f.Ordinary) (h : Renamed f g) : g.Ordinary where
  genuine k c hc := hf.genuine k c (h.components k ▸ hc)
  nodup k := by rw [h.components]; exact hf.nodup k

/-- The second forest comes from the first by renaming nodes at or below a node. -/
structure Renames (k : Key) (f g : Forest) : Prop extends Renamed f g where
  name : ∀ j, (g.node j).name = (f.node j).name ∨ f.Within k j ∧ IsNodeName (g.node j).name
  trusted : ∀ (s : SceneId) (c : PathCache), f.Housed s → c.Trusted f s → c.Trusted g s

namespace Renames

lemma refl (k : Key) (f : Forest) : Renames k f f where
  toRenamed := .refl f
  name _ := .inl rfl
  trusted _ _ _ hc := hc

lemma trans (hfg : Renames k f g) (hgh : Renames k g h) : Renames k f h where
  toRenamed := hfg.toRenamed.trans hgh.toRenamed
  name j := by
    rcases hgh.name j with heq | ⟨hwithin, hname⟩
    · rw [heq]
      exact hfg.name j
    · rw [hfg.within_eq] at hwithin
      exact .inr ⟨hwithin, hname⟩
  trusted s c hf hc := hgh.trusted s c (hfg.housed hf) (hfg.trusted s c hf hc)

lemma rename (hd : f.IsNode d) (hkd : f.Within k d) (hname : IsNodeName name) :
    Renames k f (f.rename d name) := by
  by_cases hsame : (f.node d).name = name
  · rw [Forest.rename, if_pos hsame]
    exact .refl k f
  · have heq : f.rename d name = (f.modify d fun n => { n with name }).announce d := by
      rw [Forest.rename, if_neg hsame]
    refine ⟨.rename hd name, fun j => ?_, fun s c hf hc => ?_⟩
    · rw [node_rename hd name]
      split
      · next hj => exact .inr ⟨hj ▸ hkd, hname⟩
      · exact .inl rfl
    · obtain ⟨news, hnews⟩ := changes_announce (f.modify d fun n => { n with name }) d
      rw [← heq, changes_modify] at hnews
      refine ⟨?_, ?_, hc.follows⟩
      · exact PathCache.settled_of_reaches hc.settled (reaches_rename hf hd name)
          (hf.rename d name) hnews hc.seen hc.follows
      · rw [hnews, List.length_append]
        exact Nat.le_add_left_of_le hc.seen

end Renames

/-! ### Parts of widgets -/

lemma mem_of_component? {kind : ComponentKind} {c : Component} (h : f.component? k kind = some c) :
    c ∈ (f.node k).components :=
  List.mem_of_find?_eq_some h

lemma within_of_child? (hf : f.WellFormed) (h : f.child? k name = some d) : f.Within k d :=
  .single ((hf.children k d).mp (List.mem_of_find?_eq_some h))

/-- The nodes of a list stand at or below a node and have roles of a list. -/
def RolesWithin (f : Forest) (k : Key) (words : List String) (roles : List (Key × String)) : Prop :=
  ∀ r ∈ roles, f.Within k r.1 ∧ r.2 ∈ words

namespace RolesWithin

variable {words : List String} {xs ys : List (Key × String)} {role : String}

lemma append (hx : f.RolesWithin k words xs) (hy : f.RolesWithin k words ys) :
    f.RolesWithin k words (xs ++ ys) :=
  List.forall_mem_append.mpr ⟨hx, hy⟩

lemma nil : f.RolesWithin k words [] := List.forall_mem_nil _

lemma cons (hd : f.Within k d) (hrole : role ∈ words) (hx : f.RolesWithin k words xs) :
    f.RolesWithin k words ((d, role) :: xs) :=
  List.forall_mem_cons.mpr ⟨⟨hd, hrole⟩, hx⟩

lemma given {o : Option Key} (ho : ∀ d, o = some d → f.Within k d) (hrole : role ∈ words) :
    f.RolesWithin k words (Forest.given o role) := by
  cases o with
  | none => exact .nil
  | some d => exact .cons (ho d rfl) hrole .nil

lemma map {ds : List Key} {u : Key → String} (hds : ∀ d ∈ ds, f.Within k d)
    (hu : ∀ d, u d ∈ words) : f.RolesWithin k words (ds.map fun d => (d, u d)) := by
  intro r hr
  obtain ⟨d, hd, rfl⟩ := List.mem_map.mp hr
  exact ⟨hds d hd, hu d⟩

end RolesWithin

section Roles

variable {c : Component} {kind : ComponentKind} (hparts : f.PartsBelow)

lemma part?_of_readPart (h : readPart c name = .ok (some d)) : c.part? name = some d := by
  rw [readPart, Component.held?] at h
  cases hpart : c.parts.get? name with
  | some r =>
    rw [hpart] at h
    cases h
    exact hpart
  | none =>
    rw [hpart] at h
    dsimp only at h
    cases hvalue : c.attributes.get? name with
    | none =>
      rw [hvalue] at h
      cases h
    | some v =>
      rw [hvalue] at h
      cases v <;> cases h

include hparts in
lemma below_of_part? (hc : f.component? k kind = some c) (h : c.part? name = some d) :
    f.Below k d :=
  hparts k c (mem_of_component? hc) name d h

include hparts in
lemma within_of_part? (hc : f.component? k kind = some c) (d : Key) (h : c.part? name = some d) :
    f.Within k d :=
  within_iff_below.mpr (.inr (below_of_part? hparts hc h))

include hparts in
lemma within_of_readPart (hc : f.component? k kind = some c) {part : Option Key}
    (h : readPart c name = .ok part) (d : Key) (hd : part = some d) : f.Within k d :=
  within_of_part? hparts hc d (part?_of_readPart (hd ▸ h))

include hparts in
/-- What a part hangs below stands below the owner, or is the owner itself. -/
lemma within_parent_of_part? {p : Key} (hc : f.component? k kind = some c)
    (h : c.part? name = some d) (hp : (f.node d).parent = some p) : f.Within k p := by
  obtain ⟨q, hkq, hqd⟩ := Relation.TransGen.tail'_iff.mp (below_of_part? hparts hc h)
  obtain rfl : p = q := Option.some.inj (hp.symm.trans hqd)
  exact hkq

lemma within_of_mem_below (hf : f.WellFormed) (hk : f.IsNode k) {kinds : List ComponentKind} :
    ∀ d ∈ f.below k kinds, f.Within k d :=
  fun _ hd => (hf.mem_subtree hk).mp (List.mem_filter.mp hd).1

lemma rolesWithin_inputFieldParts (hf : f.WellFormed) (hk : f.IsNode k) :
    f.RolesWithin k (roleWords .inputField) (f.inputFieldParts k).parts := by
  rw [inputFieldParts]
  dsimp only
  split
  · exact .nil
  · refine .map (within_of_mem_below hf hk) fun d => ?_
    split <;> decide

include hparts in
lemma rolesWithin_toggleParts (hf : f.WellFormed) (hk : f.IsNode k) :
    f.RolesWithin k (roleWords .toggle) (f.toggleParts k).parts := by
  rw [toggleParts]
  split
  · exact .nil
  · next c hc =>
    split
    · exact .nil
    · next graphic hgraphic =>
      refine .append (.given (within_of_readPart hparts hc hgraphic) (by decide))
        (.map ?_ fun _ => by decide)
      exact fun d hd => within_of_mem_below hf hk d (List.mem_filter.mp hd).1

lemma rolesWithin_dropdownParts (hf : f.WellFormed) :
    f.RolesWithin k (roleWords .dropdown) (f.dropdownParts k) := by
  have hchild : ∀ {name d}, f.child? k name = some d → f.Within k d :=
    fun h => within_of_child? hf h
  have hbind : ∀ {o : Option Key} {name : String}, (∀ e, o = some e → f.Within k e) →
      ∀ d, (o.bind fun e => f.child? e name) = some d → f.Within k d := by
    intro o name ho d hd
    obtain ⟨e, he, hd⟩ := Option.bind_eq_some_iff.mp hd
    exact (ho e he).trans (within_of_child? hf hd)
  have htemplate : ∀ d, f.child? k "Template" = some d → f.Within k d := fun _ => hchild
  refine .append (.append (.append (.append (.append ?_ ?_) ?_) ?_) ?_) ?_
  · exact .given (fun _ => hchild) (by decide)
  · exact .given (fun _ => hchild) (by decide)
  · exact .given htemplate (by decide)
  · exact .given (hbind htemplate) (by decide)
  · exact .given (hbind htemplate) (by decide)
  · exact .given (hbind (hbind htemplate)) (by decide)

include hparts in
lemma rolesWithin_fillParts (hc : f.component? k kind = some c) {fill : Option Key}
    (hfill : readPart c name = .ok fill) :
    f.RolesWithin k (roleWords .slider) (f.fillParts fill) := by
  unfold fillParts
  split
  · exact .nil
  · next r =>
    have hr := part?_of_readPart hfill
    split
    · next p hp =>
      exact .cons (within_parent_of_part? hparts hc hr hp) (by decide)
        (.cons (within_of_part? hparts hc r hr) (by decide) .nil)
    · exact .nil

include hparts in
lemma rolesWithin_handleParts (hc : f.component? k kind = some c) {handle : Option Key}
    (hhandle : readPart c name = .ok handle) :
    f.RolesWithin k (roleWords .slider) (f.handleParts k handle) := by
  unfold handleParts
  split
  · exact .nil
  · next r =>
    have hr := part?_of_readPart hhandle
    refine .cons (within_of_part? hparts hc r hr) (by decide) ?_
    split
    · next p hp =>
      split
      · exact .nil
      · exact .cons (within_parent_of_part? hparts hc hr hp) (by decide) .nil
    · exact .nil

include hparts in
lemma rolesWithin_sliderParts : f.RolesWithin k (roleWords .slider) (f.sliderParts k).parts := by
  rw [sliderParts]
  split
  · exact .nil
  · next c hc =>
    split
    · exact .nil
    · next fill e hfill _ => exact rolesWithin_fillParts hparts hc hfill
    · next fill handle hfill hhandle =>
      exact .append (rolesWithin_fillParts hparts hc hfill)
        (rolesWithin_handleParts hparts hc hhandle)

include hparts in
lemma rolesWithin_readParts {words : List String} {names : List (String × String)}
    (hc : f.component? k kind = some c) (hnames : ∀ n ∈ names, n.2 ∈ words) :
    f.RolesWithin k words (readParts c names).parts := by
  induction names with
  | nil => exact .nil
  | cons n names ih =>
    rw [List.forall_mem_cons] at hnames
    rw [readParts]
    split
    · exact .nil
    · next part hpart =>
      exact .append (.given (within_of_readPart hparts hc hpart) hnames.1) (ih hnames.2)

include hparts in
lemma rolesWithin_scrollAreaParts :
    f.RolesWithin k (roleWords .scrollArea) (f.scrollAreaParts k).parts := by
  rw [scrollAreaParts]
  split
  · exact .nil
  · next c hc =>
    split
    · exact rolesWithin_readParts hparts hc (by decide)
    · exact .nil

include hparts in
/-- The parts of a widget that are renamed with it stand at or below it. -/
lemma rolesWithin_partRoles (hf : f.WellFormed) (hk : f.IsNode k) (c : Capability) :
    f.RolesWithin k (roleWords c) (f.partRoles k c).parts := by
  cases c with
  | inputField => exact rolesWithin_inputFieldParts hf hk
  | toggle => exact rolesWithin_toggleParts hparts hf hk
  | dropdown => exact rolesWithin_dropdownParts hf
  | slider => exact rolesWithin_sliderParts hparts
  | scrollArea => exact rolesWithin_scrollAreaParts hparts
  | panel => exact .nil
  | _ =>
    refine .append (.map (within_of_mem_below hf hk) fun _ => by decide) (.map ?_ fun _ => by decide)
    exact fun d hd => within_of_mem_below hf hk d (List.mem_filter.mp hd).1

end Roles

end Forest

namespace Renaming

open Forest

variable {r r' r'' : Renaming} {d k : Key} {new : String}

/-- The same renaming, but for what it stopped at. -/
def stop (r : Renaming) (e : Option Failure) : Renaming := { r with fault := e }

@[simp] lemma stop_name (r : Renaming) (e : Option Failure) : (r.stop e).name = r.name := rfl

/-- Renamings at or below a node have been carried out and counted. -/
structure Works (k : Key) (r r' : Renaming) : Prop where
  forest : Renames k r.forest r'.forest
  settings : r'.namer.respectsExisting = r.namer.respectsExisting
  counted : r.namer.renamed ≤ r'.namer.renamed
  still : r'.namer.renamed = r.namer.renamed → r'.forest = r.forest

namespace Works

lemma refl (k : Key) (r : Renaming) : Works k r r :=
  ⟨.refl k _, rfl, Nat.le_refl _, fun _ => rfl⟩

lemma trans (h : Works k r r') (h' : Works k r' r'') : Works k r r'' where
  forest := h.forest.trans h'.forest
  settings := h'.settings.trans h.settings
  counted := Nat.le_trans h.counted h'.counted
  still he := by
    have h₁ := h.counted
    have h₂ := h'.counted
    rw [h'.still (by omega), h.still (by omega)]

lemma rename (hd : r.forest.IsNode d) (hkd : r.forest.Within k d) (hnew : '/' ∉ new.toList) :
    Works k r (r.rename d new).1 := by
  rw [Renaming.rename]
  dsimp only
  split
  · exact .refl k r
  · next hne =>
    rw [Bool.or_eq_true, not_or, String.isEmpty_iff] at hne
    exact ⟨.rename hd hkd ⟨hne.1, hnew⟩, rfl, Nat.le_succ _, fun he => absurd he (Nat.succ_ne_self _)⟩

lemma renameAll (hk : r.forest.IsNode k) {names : List (Key × String)}
    (hnames : ∀ n ∈ names, r.forest.Within k n.1 ∧ '/' ∉ n.2.toList) :
    Works k r (r.renameAll names) := by
  induction names generalizing r with
  | nil => exact .refl k r
  | cons n names ih =>
    rw [List.forall_mem_cons] at hnames
    obtain ⟨⟨hwithin, hname⟩, hrest⟩ := hnames
    have hone : Works k r (r.rename n.1 n.2).1 := .rename (hwithin.isNode hk) hwithin hname
    refine hone.trans (ih (hone.forest.isNode_iff.mpr hk) fun m hm => ?_)
    rw [hone.forest.within_eq]
    exact hrest m hm

end Works

/-- What the renamings stopped at is of no account. -/
lemma Works.stop (h : Works k r r') (e : Option Failure) : Works k r (r'.stop e) :=
  ⟨h.forest, h.settings, h.counted, h.still⟩

/-- A forest in which nodes can be standardized and stored: its names are names of stored nodes, and
parts stand below their owners. -/
structure Orderly (f : Forest) : Prop where
  wellFormed : f.WellFormed
  parts : f.PartsBelow
  names : ∀ k, f.IsNode k → IsNodeName (f.node k).name

lemma Orderly.renames {f g : Forest} (hf : Orderly f) (h : Renames k f g) : Orderly g where
  wellFormed := h.wellFormed hf.wellFormed
  parts := h.partsBelow hf.parts
  names j hj := by
    rcases h.name j with heq | ⟨-, hname⟩
    · rw [heq]
      exact hf.names j (h.isNode_iff.mp hj)
    · exact hname

/-- A scene that was loaded can be registered. -/
lemma orderly_of_loadScene [Validator] {f : Forest} {v : Value} {events : List Event} {scene : SceneId}
    (h : Forest.empty.loadScene v = ⟨f, events, .ok scene⟩) :
    scene = 0 ∧ (f.scene 0).name ≠ "" ∧ Orderly f ∧ ∃ ts, f.Planted ts := by
  obtain ⟨hscene, fields, spec, -, hspec, hcarries⟩ := carries_loadScene h
  obtain ⟨hname, hnames⟩ := hcarries.names_readable hspec
  exact ⟨hscene, hname, ⟨hcarries.planted.wellFormed, hcarries.parts, hnames⟩, spec.roots,
    hcarries.planted⟩

/-- The names that the parts of a widget get after it. -/
def partNames (r : Renaming) (k : Key) (c : Capability) : List (Key × String) :=
  (r.forest.partRoles k c).parts.map fun p => (p.1, partName (r.name k) c p.2)

lemma standardizeParts_eq (r : Renaming) (k : Key) (c : Capability) : r.standardizeParts k c =
    (r.renameAll (r.partNames k c)).stop (r.forest.partRoles k c).fault :=
  rfl

/-- Parts stand at or below their widget, and their names end with their roles. -/
lemma exists_role_of_mem_partNames (hr : Orderly r.forest) (hk : r.forest.IsNode k) {c : Capability}
    {n : Key × String} (hn : n ∈ r.partNames k c) : r.forest.Within k n.1 ∧
      ∃ role, (n.1, role) ∈ (r.forest.partRoles k c).parts ∧ role ∈ roleWords c ∧
        n.2 = partName (r.name k) c role := by
  obtain ⟨p, hp, rfl⟩ := List.mem_map.mp hn
  obtain ⟨hwithin, hrole⟩ := rolesWithin_partRoles hr.parts hr.wellFormed hk c p hp
  exact ⟨hwithin, p.2, hp, hrole, by dsimp only⟩

lemma slash_not_mem_of_mem_partNames (hr : Orderly r.forest) (hk : r.forest.IsNode k)
    {c : Capability} {n : Key × String} (hn : n ∈ r.partNames k c) : '/' ∉ n.2.toList := by
  obtain ⟨-, role, -, hrole, hname⟩ := exists_role_of_mem_partNames hr hk hn
  have hslash : '/' ∉ role.toList := fun h =>
    absurd (List.all_eq_true.mp (isRole_of_mem hrole) '/' h) (by decide)
  rw [hname]
  exact slash_not_mem_partName (hr.names k hk).2 hslash c

lemma works_standardizeParts (hr : Orderly r.forest) (hk : r.forest.IsNode k) (c : Capability) :
    Works k r (r.standardizeParts k c) := by
  have hall : Works k r (r.renameAll (r.partNames k c)) := .renameAll hk fun n hn =>
    ⟨(exists_role_of_mem_partNames hr hk hn).1, slash_not_mem_of_mem_partNames hr hk hn⟩
  rw [standardizeParts_eq]
  exact hall.stop _

lemma works_standardize (force : Bool) (hr : Orderly r.forest) (hk : r.forest.IsNode k) :
    Works k r (r.standardize k force).1 := by
  rw [standardize]
  dsimp only
  split
  · exact .refl k r
  · have hone : Works k r (r.rename k (Name.normalize (r.name k) (r.forest.classify k) true)).1 :=
      .rename hk .refl (Name.slash_not_mem_normalize (hr.names k hk).2 _ _)
    split
    · exact hone.trans
        (works_standardizeParts (hr.renames hone.forest) (hone.forest.isNode_iff.mpr hk) _)
    · exact hone

/-- A node that has its proposed name already is left alone, and so are its parts. -/
lemma standardize_of_proposedName_eq (h : r.namer.proposedName r.forest k false = r.name k) :
    (r.standardize k false).1 = r := by
  rw [Standardizer.proposedName] at h
  rw [standardize]
  dsimp only
  split
  · rfl
  · next hno =>
    rw [if_neg hno] at h
    have hsame : (r.rename k (Name.normalize (r.name k) (r.forest.classify k) true)) = (r, false) := by
      rw [rename, if_pos]
      rw [Bool.or_eq_true]
      by_cases hempty : (Name.normalize (r.name k) (r.forest.classify k) true).isEmpty = true
      · exact .inl hempty
      · exact .inr (beq_iff_eq.mpr ((if_neg hempty).symm.trans h).symm)
    rw [hsame]
    rfl

end Renaming

end SceneBindings
