import SceneBindings.Proofs.Files.Paths
import SceneBindings.Proofs.Scene.Filling

/-!
A forest with one scene, as loading leaves it: all nodes belong to the scene, its walk is the range
of all keys, and the parts of components stand below their owners.
-/

namespace SceneBindings.Forest

open NodeSpec

/-- The forest has one scene, laid out as a list of described roots says. -/
structure Planted (f : Forest) (ts : List NodeSpec) : Prop where
  length : f.nodes.length = sizeAll ts
  shows : f.Shows 1 (shapesAll (some 0) none 1 ts)
  only : f.scenes.length = 1
  roots : f.roots 0 = keysFrom 1 ts

/-- Parts of components stand below the nodes that carry the components. -/
def PartsBelow (f : Forest) : Prop :=
  ∀ k, ∀ c ∈ (f.node k).components, ∀ name r, c.part? name = some r → f.Below k r

variable {f g : Forest} {ts : List NodeSpec} {c k p : Nat}

namespace Planted

variable (hf : f.Planted ts)
include hf

lemma stands (hk : f.IsNode k) : f.Stands (some 0) (1 + sizeAll ts) k := by
  have hbounds := isNode_iff.mp hk
  have hlength := hf.length
  exact stands_of_shows_all hf.shows hbounds.1 (by omega)

lemma alive (k : Key) : f.IsAlive k := by
  by_cases hk : f.IsNode k
  · exact (hf.stands hk).alive
  · rw [IsAlive, node_of_not_isNode hk]
    rfl

lemma isChild_iff : f.IsChild p c ↔ c ∈ (f.node p).children := by
  constructor
  · intro hchild
    have hbounds := isNode_iff.mp hchild.isNode
    have hlength := hf.length
    rcases listed_of_shows_all hf.shows hbounds.1 (by omega) with hroot | ⟨q, hq, hc⟩
    · have hnone := parent_of_shows_of_mem hf.shows hroot
      rw [IsChild, hnone] at hchild
      cases hchild
    · rw [IsChild, hq] at hchild
      cases hchild
      exact hc
  · intro hc
    by_cases hp : f.IsNode p
    · exact ((hf.stands hp).children c hc).2.2
    · rw [node_of_not_isNode hp] at hc
      cases hc

/-- A parent is older than its children. -/
lemma lt_of_isChild (h : f.IsChild p c) : p < c := by
  have hc := hf.isChild_iff.mp h
  by_cases hp : f.IsNode p
  · exact ((hf.stands hp).children c hc).1
  · rw [node_of_not_isNode hp] at hc
    cases hc

lemma le_of_within (h : f.Within k c) : k ≤ c := by
  induction h with
  | refl => exact Nat.le_refl k
  | tail _ hstep ih => exact Nat.le_trans ih (Nat.le_of_lt (hf.lt_of_isChild hstep))

lemma roots_of_ne {s : SceneId} (hs : s ≠ 0) : f.roots s = [] := by
  have hnone : f.scenes[s]? = none :=
    List.getElem?_eq_none (by rw [hf.only]; exact Nat.one_le_iff_ne_zero.mpr hs)
  rw [Forest.roots, scene, scene?, hnone]
  rfl

lemma isNode_of_root (hk : k ∈ keysFrom 1 ts) : f.IsNode k := by
  have hbounds := keysFrom_bounds hk
  have hlength := hf.length
  rw [isNode_iff]
  omega

lemma wellFormed : f.WellFormed where
  children _ _ := hf.isChild_iff.symm
  nodup p := by
    by_cases hp : f.IsNode p
    · exact (hf.stands hp).nodup
    · rw [node_of_not_isNode hp]
      exact List.nodup_nil
  ends := Subrelation.wf (fun {_ _} h => hf.lt_of_isChild h) Nat.lt_wfRel.wf
  roots s r hr := by
    by_cases hs : s = 0
    · subst hs
      rw [hf.roots] at hr
      exact hf.isNode_of_root hr
    · rw [hf.roots_of_ne hs] at hr
      cases hr

lemma housed : f.Housed 0 where
  toWellFormed := hf.wellFormed
  known := by rw [hf.only]; exact Nat.zero_lt_one
  nodupRoots := by rw [hf.roots]; exact nodup_keysFrom 1 ts
  parentless r hr := by
    rw [hf.roots] at hr
    exact parent_of_shows_of_mem hf.shows hr
  housed r hr := (hf.stands (hf.wellFormed.roots 0 r hr)).scene
  together p c h := by
    rw [(hf.stands h.isNode).scene, (hf.stands (hf.wellFormed.isNode_parent h)).scene]

lemma walk : f.walk 0 = List.range' 1 f.nodes.length := by
  have hlength := hf.length
  rw [Forest.walk, hf.roots, hlength]
  exact flatMap_subtreeTo_of_shows hf.shows (Nat.le_of_eq hlength.symm)

lemma mem_walk : k ∈ f.walk 0 ↔ f.IsNode k := by
  rw [hf.walk, List.mem_range'_1, isNode_iff]
  omega

end Planted

/-- Two forests that differ in names and in what components hold, but not in their kinds and labels. -/
structure Reshaped (f g : Forest) : Prop where
  length : g.nodes.length = f.nodes.length
  scenes : g.scenes = f.scenes
  shape : ∀ k, (g.node k).shape = (f.node k).shape

namespace Reshaped

lemma refl (f : Forest) : Reshaped f f := ⟨rfl, rfl, fun _ => rfl⟩

lemma trans {h : Forest} (hfg : Reshaped f g) (hgh : Reshaped g h) : Reshaped f h :=
  ⟨hgh.length.trans hfg.length, hgh.scenes.trans hfg.scenes, fun k => (hgh.shape k).trans (hfg.shape k)⟩

variable (h : Reshaped f g)
include h

lemma parent (k : Key) : (g.node k).parent = (f.node k).parent :=
  (congrArg Node.parent (h.shape k) :)

lemma isNode_iff : g.IsNode k ↔ f.IsNode k := isNode_of_length h.length

lemma isChild_eq : g.IsChild = f.IsChild := by
  funext p c
  rw [IsChild, IsChild, h.parent]

lemma subtreeTo_eq (n : Nat) (k : Key) : g.subtreeTo n k = f.subtreeTo n k := by
  induction n generalizing k with
  | zero => rfl
  | succ n ih =>
    have hchildren : (g.node k).children = (f.node k).children :=
      (congrArg Node.children (h.shape k) :)
    rw [subtreeTo, subtreeTo, hchildren]
    exact congrArg (k :: ·) (List.flatMap_congr fun c _ => ih c)

lemma walk_eq (s : SceneId) : g.walk s = f.walk s := by
  rw [walk, walk, roots_of_scenes h.scenes]
  refine List.flatMap_congr fun r _ => ?_
  rw [subtree, subtree, h.length, h.subtreeTo_eq]

lemma chain_eq (k : Key) : g.chain k = f.chain k := by
  have hchain : ∀ (n : Nat) (k : Key), g.chainUpTo n k = f.chainUpTo n k := by
    intro n
    induction n with
    | zero => exact fun _ => rfl
    | succ n ih =>
      intro k
      rw [chainUpTo, chainUpTo, h.parent]
      cases (f.node k).parent with
      | none => rfl
      | some p => exact congrArg (k :: ·) (ih p)
  rw [chain, chain, h.length, hchain]

lemma planted (hf : f.Planted ts) : g.Planted ts where
  length := h.length.trans hf.length
  shows := hf.shows.congr fun j _ _ hj => ⟨h.isNode_iff.mpr hj, h.shape j⟩
  only := by rw [h.scenes, hf.only]
  roots := by rw [roots_of_scenes h.scenes, hf.roots]

end Reshaped

/-! ### Parts -/

lemma below_of_descend? (hf : f.WellFormed) {name : String} {names : List String} {d : Key}
    (h : f.descend? k (name :: names) = some d) : f.Below k d := by
  induction names generalizing k name with
  | nil =>
    rw [descend?] at h
    split at h
    · next c hc =>
      cases h
      exact .single ((hf.children k _).mp (List.mem_of_find?_eq_some hc))
    · cases h
  | cons name' names ih =>
    rw [descend?] at h
    split at h
    · next c hc =>
      exact .head ((hf.children k c).mp (List.mem_of_find?_eq_some hc)) (ih h)
    · cases h

lemma below_of_find? (hf : f.WellFormed) {path : String} {d : Key}
    (h : f.find? k path = some d) : f.Below k d := by
  rw [find?] at h
  cases hnames : splitPath path with
  | nil =>
    obtain ⟨w, ws, hsplit⟩ := Text.exists_splitAt_eq '/' path.toList
    simp [splitPath, hsplit] at hnames
  | cons name names =>
    rw [hnames] at h
    exact below_of_descend? hf h

/-- A component after one of its parts was looked up. -/
def fit (f : Forest) (owner : Key) (c : Component) (p : String × Value) : Component :=
  match p.2 with
  | .text path =>
    match f.find? (c.base owner) path with
    | some k => c.setPart p.1 k
    | none => c
  | _ => c

/-- A component after its parts were looked up one by one. -/
def equip (f : Forest) (owner : Key) (c : Component) (ps : List (String × Value)) : Component :=
  ps.foldl (f.fit owner) c

section Equip

variable {owner : Key} {c d : Component} {p : String × Value} {ps : List (String × Value)}
  {events events' : List Event}

lemma fit_cases (f : Forest) (owner : Key) (c : Component) (p : String × Value) :
    f.fit owner c p = c ∨ ∃ path k, p.2 = .text path ∧ f.find? (c.base owner) path = some k ∧
      f.fit owner c p = c.setPart p.1 k := by
  unfold fit
  split
  · next path hpath =>
    split
    · next k hk => exact .inr ⟨path, k, hpath, hk, rfl⟩
    · exact .inl rfl
  · exact .inl rfl

lemma bare_fit (f : Forest) (owner : Key) (c : Component) (p : String × Value) :
    (f.fit owner c p).bare = c.bare := by
  rcases fit_cases f owner c p with h | ⟨-, k, -, -, h⟩ <;> rw [h]
  rfl

lemma bare_equip (f : Forest) (owner : Key) (c : Component) (ps : List (String × Value)) :
    (f.equip owner c ps).bare = c.bare := by
  induction ps generalizing c with
  | nil => rfl
  | cons p ps ih => exact (ih _).trans (bare_fit f owner c p)

lemma resolvePart_eq_ok {es : List Event} (h : f.resolvePart owner c p = .ok (d, es)) :
    d = f.fit owner c p := by
  unfold resolvePart at h
  unfold fit
  split at h
  · split at h <;> cases h <;> simp_all
  · cases h

lemma resolveParts_eq_ok (h : f.resolveParts owner c events ps = (d, events', .ok ())) :
    d = f.equip owner c ps := by
  induction ps generalizing c events with
  | nil =>
    cases h
    rfl
  | cons p ps ih =>
    rw [resolveParts] at h
    split at h
    · next c' es hone =>
      rw [ih h, resolvePart_eq_ok hone]
      rfl
    · cases h

/-- All parts that are found below the owner or below one of its parts stand below the owner. -/
lemma below_of_part?_equip (hf : f.WellFormed) {name : String} {r : Key}
    (hc : ∀ name r, c.part? name = some r → f.Below owner r)
    (hr : (f.equip owner c ps).part? name = some r) : f.Below owner r := by
  induction ps generalizing c with
  | nil => exact hc name r hr
  | cons p ps ih =>
    refine ih (fun name r hr => ?_) hr
    rcases fit_cases f owner c p with h | ⟨path, k, -, hk, h⟩ <;> rw [h] at hr
    · exact hc name r hr
    · rw [Component.part?, Component.setPart, Table.get?_put] at hr
      split at hr
      · cases hr
        have hbelow := below_of_find? hf hk
        cases hbase : c.part? "node" with
        | none => rwa [Component.base, hbase] at hbelow
        | some b =>
          rw [Component.base, hbase] at hbelow
          exact (hc _ b hbase).trans hbelow
      · exact hc name r hr

end Equip

lemma reshaped_modifyComponent (f : Forest) (k : Key) (label : Value) {u : Component → Component}
    (hu : ∀ c ∈ (f.node k).components, c.label.sameKey label = true → (u c).bare = c.bare) :
    Reshaped f (f.modifyComponent k label u) := by
  refine ⟨length_modify f _ _, scenes_modify f _ _, fun j => ?_⟩
  rw [modifyComponent, node_modify]
  split
  · next hj =>
    rw [hj.1, Node.shape, Node.shape, List.map_map]
    congr 1
    refine List.map_congr_left fun c hc => ?_
    rw [Function.comp_apply]
    split
    · next hlabel => exact hu c hc hlabel
    · rfl
  · rfl

lemma PartsBelow.modifyComponent (hparts : f.PartsBelow) {label : Value} {d : Component}
    (hd : ∀ name r, d.part? name = some r → f.Below k r)
    (hshape : Reshaped f (f.modifyComponent k label fun _ => d)) :
    (f.modifyComponent k label fun _ => d).PartsBelow := by
  intro j e he name r hr
  rw [Below, hshape.isChild_eq]
  rw [Forest.modifyComponent, node_modify] at he
  split at he
  · next hj =>
    rw [hj.1]
    obtain ⟨e, hmem, rfl⟩ := List.mem_map.mp he
    split at hr
    · exact hd name r hr
    · exact hparts k e hmem name r hr
  · exact hparts j e he name r hr

/-- What a node keeps under the label of a pending component is that component. -/
def Kept (f : Forest) (p : Pending) : Prop :=
  p.superseded = false → ∀ d ∈ (f.node p.owner).components,
    d.label.sameKey p.component.label = true → d.bare = p.component.bare

lemma Reshaped.kept (h : Reshaped f g) {p : Pending} (hp : f.Kept p) : g.Kept p := by
  intro hlast d hd hlabel
  have hmem : d.bare ∈ (f.node p.owner).shape.components := by
    rw [← h.shape]
    exact List.mem_map_of_mem hd
  obtain ⟨e, he, hbare⟩ := List.mem_map.mp hmem
  rw [← Component.label_bare, ← hbare] at hlabel
  rw [← hbare, hp hlast e he hlabel]

/-- Finding the parts of the components changes what these hold and nothing else. -/
lemma resolve_eq_ok {ps : List Pending} {events events' : List Event} (hf : f.Planted ts)
    (hparts : f.PartsBelow) (hps : ∀ p ∈ ps, p.component.parts = .empty ∧ f.Kept p)
    (h : f.resolve events ps = (g, events', .ok ())) :
    Reshaped f g ∧ g.PartsBelow ∧ ∀ k, (g.node k).name = (f.node k).name := by
  induction ps generalizing f events with
  | nil =>
    cases h
    exact ⟨.refl _, hparts, fun _ => rfl⟩
  | cons p ps ih =>
    obtain ⟨⟨hempty, hkept⟩, hrest⟩ := List.forall_mem_cons.mp hps
    rw [resolve] at h
    rcases hone : f.resolveParts p.owner p.component events p.parts with ⟨d, es, r⟩
    rw [hone] at h
    dsimp only at h
    cases r with
    | error e => cases h
    | ok u =>
      have hd := resolveParts_eq_ok hone
      obtain ⟨f₁, hf₁⟩ : ∃ f₁, f₁ = if p.superseded then f
        else f.modifyComponent p.owner p.component.label fun _ => d := ⟨_, rfl⟩
      have hstep : Reshaped f f₁ ∧ f₁.PartsBelow ∧ ∀ k, (f₁.node k).name = (f.node k).name := by
        rw [hf₁]
        split
        · exact ⟨.refl f, hparts, fun _ => rfl⟩
        · next hlast =>
          have hshape : Reshaped f (f.modifyComponent p.owner p.component.label fun _ => d) :=
            reshaped_modifyComponent f _ _ fun c hc hlabel => by
              rw [hkept (Bool.eq_false_iff.mpr hlast) c hc hlabel, hd, bare_equip]
          refine ⟨hshape, hparts.modifyComponent (fun name r hr => ?_) hshape,
            fun k => node_modify_keeps (·.name) f _ k⟩
          rw [hd] at hr
          refine below_of_part?_equip hf.wellFormed (fun name r hr => ?_) hr
          rw [Component.part?, hempty] at hr
          cases hr
      rw [← hf₁] at h
      obtain ⟨hshape, hparts₁, hname⟩ := hstep
      obtain ⟨hshape', hparts', hname'⟩ := ih (hshape.planted hf) hparts₁
        (fun q hq => (hrest q hq).imp_right hshape.kept) h
      exact ⟨hshape.trans hshape', hparts', fun k => (hname' k).trans (hname k)⟩

/-! ### Components to equip -/

lemma mem_pendingOf {p : Pending} {owner : Key} {cs : List (Component × Value)}
    (h : p ∈ pendingOf owner cs) :
    p.owner = owner ∧ ∃ e ∈ cs, p.component = e.1 ∧ p.parts = e.1.pendingParts e.2 := by
  induction cs with
  | nil => cases h
  | cons c cs ih =>
    rw [pendingOf, List.mem_cons] at h
    rcases h with rfl | h
    · exact ⟨rfl, c, List.mem_cons_self, rfl, rfl⟩
    · obtain ⟨howner, e, he, hmore⟩ := ih h
      exact ⟨howner, e, List.mem_cons_of_mem c he, hmore⟩

/-- A component that no later one takes the place of alone has its label. -/
lemma eq_of_mem_installed {p : Pending} {owner : Key} {cs : List (Component × Value)}
    (hp : p ∈ pendingOf owner cs) (hlast : p.superseded = false) {e : Component × Value}
    (he : e ∈ installed cs) (hlabel : e.1.label.sameKey p.component.label = true) :
    p.component = e.1 ∧ p.parts = e.1.pendingParts e.2 := by
  suffices ∀ ds, e ∈ cs.foldl putEntry ds → p.component = e.1 ∧ p.parts = e.1.pendingParts e.2 from
    this [] he
  clear he
  induction cs with
  | nil => cases hp
  | cons c cs ih =>
    intro ds he
    rw [pendingOf, List.mem_cons] at hp
    rw [List.foldl_cons] at he
    rcases hp with rfl | hp
    · rcases mem_foldl_putEntry he with he | he
      · rcases mem_putEntry he with rfl | ⟨-, hother⟩
        · exact ⟨rfl, rfl⟩
        · rw [hother] at hlabel
          cases hlabel
      · exact absurd hlabel (List.any_eq_false.mp hlast e he)
    · exact ih hp _ he

lemma mem_pendingFrom {p : Pending} {k : Nat} {css : List (List (Component × Value))} :
    p ∈ pendingFrom k css ↔ ∃ i, p ∈ pendingOf (k + i) (css.getD i []) := by
  induction css generalizing k with
  | nil => simp [pendingFrom, pendingOf]
  | cons cs css ih =>
    rw [pendingFrom, List.mem_append, ih]
    constructor
    · rintro (h | ⟨i, h⟩)
      · exact ⟨0, h⟩
      · exact ⟨i + 1, by rwa [Nat.add_right_comm] at h⟩
    · rintro ⟨_ | i, h⟩
      · exact .inl h
      · exact .inr ⟨i, by rwa [Nat.add_right_comm]⟩

lemma mem_described {entries : List Value} {e : Component × Value} :
    e ∈ described entries → e.2 ∈ entries ∧ Component.ofEntry e.2 = .ok e.1 := by
  intro h
  rw [described] at h
  split at h
  · next cs hcs => exact (mem_describedComponents_iff hcs).mp h
  · cases h

lemma parts_of_mem_described {entries : List Value} {e : Component × Value}
    (h : e ∈ described entries) : e.1.parts = .empty :=
  Component.parts_ofDescription (Component.ofEntry_eq_ok.mp (mem_described h).2).1

/-! ### Loading -/

/-- What a described scene is like once its nodes have been built. -/
structure Raised (f : Forest) (spec : SceneSpec) : Prop where
  planted : f.Planted spec.roots
  names : (List.range' 1 f.nodes.length).map (fun k => (f.node k).name) = namesAll spec.roots
  sceneName : (f.scene 0).name = spec.name
  components : ∀ i : Nat, (f.node (1 + i)).components =
    (installed (described ((entriesAll spec.roots).getD i []))).map (·.1)

/-- Building the roots of a new scene raises the whole tree. -/
lemma raised_buildRoots {spec : SceneSpec} {b : Built}
    (h : buildRoots ⟨(empty.addScene spec.name).1, []⟩ 0 spec.roots = (b, .ok ())) :
    b.forest.Raised spec ∧
      b.pending = pendingFrom 1 ((entriesAll spec.roots).map described) := by
  obtain ⟨hadds, hscenes⟩ := adds_buildRoots h Nat.zero_lt_one fun r hr => nomatch hr
  have hfills := fills_buildRoots h
  have hlength := hadds.length
  rw [length_shapesAll] at hlength
  refine ⟨⟨⟨?_, hadds.shows, ?_, ?_⟩, ?_, ?_, fun i => ?_⟩, hfills.pending.trans (List.nil_append _)⟩
  · exact hlength.trans (Nat.zero_add _)
  · rw [hscenes]
    rfl
  · rw [roots, scene, scene?, hscenes]
    rfl
  · rw [← hadds.names, length_shapesAll, hlength]
    exact congrArg (fun n => (List.range' 1 n).map _) (Nat.zero_add _)
  · rw [scene, scene?, hscenes]
    rfl
  · have hnew : ¬ 1 + i ≤ (empty.addScene spec.name).1.nodes.length := by
      change ¬ 1 + i ≤ 0
      omega
    have hkey : 1 + i - ((empty.addScene spec.name).1.nodes.length + 1) = i := by
      change 1 + i - (0 + 1) = i
      omega
    rw [hfills.components, if_neg hnew, hkey, getD_described]

/-- Loading builds the nodes and then finds the parts of their components. -/
lemma raises_loadScene [Validator] {v : Value} {s : SceneId} {events : List Event}
    (h : Forest.empty.loadScene v = ⟨f, events, .ok s⟩) :
    s = 0 ∧ ∃ fields spec, documentFields v = .ok fields ∧ SceneSpec.read fields = .ok spec ∧
      ∃ b : Forest, b.Raised spec ∧
        b.resolve [] (pendingFrom 1 ((entriesAll spec.roots).map described)) = (f, events, .ok ()) := by
  rw [loadScene] at h
  split at h
  · cases h
  · next fields hfields =>
    split at h
    · cases h
    · next spec hspec =>
      dsimp only at h
      split at h
      · cases h
      · next b hb =>
        obtain ⟨hraised, hpending⟩ := raised_buildRoots hb
        rcases hr : b.forest.resolve [] b.pending with ⟨g, es, e | u⟩
        · rw [hr] at h
          cases h
        · rw [hr] at h
          cases h
          exact ⟨rfl, fields, spec, hfields, hspec, b.forest, hraised, hpending ▸ hr⟩

namespace Raised

variable {spec : SceneSpec} (hf : f.Raised spec)
include hf

lemma partsBelow : f.PartsBelow := by
  intro k c hc name r hr
  have hk : f.IsNode k := by
    by_contra hk
    rw [node_of_not_isNode hk] at hc
    cases hc
  obtain ⟨i, rfl⟩ := Nat.exists_eq_add_of_le (isNode_iff.mp hk).1
  rw [hf.components] at hc
  obtain ⟨e, he, rfl⟩ := List.mem_map.mp hc
  rw [Component.part?, parts_of_mem_described (mem_installed he)] at hr
  cases hr

lemma kept {p : Pending} (hp : p ∈ pendingFrom 1 ((entriesAll spec.roots).map described)) :
    p.component.parts = .empty ∧ f.Kept p := by
  obtain ⟨i, hi⟩ := mem_pendingFrom.mp hp
  rw [getD_described] at hi
  obtain ⟨howner, e, he, hcomponent, -⟩ := mem_pendingOf hi
  refine ⟨by rw [hcomponent, parts_of_mem_described he], fun hlast d hd hlabel => ?_⟩
  rw [howner, hf.components] at hd
  obtain ⟨c, hc, rfl⟩ := List.mem_map.mp hd
  rw [(eq_of_mem_installed hi hlast hc hlabel).1]

end Raised

/-- What a described scene is like once it has been loaded. -/
structure Carries (f : Forest) (spec : SceneSpec) : Prop where
  planted : f.Planted spec.roots
  names : (List.range' 1 f.nodes.length).map (fun k => (f.node k).name) = namesAll spec.roots
  sceneName : (f.scene 0).name = spec.name
  parts : f.PartsBelow

lemma carries_loadScene [Validator] {v : Value} {s : SceneId} {events : List Event}
    (h : Forest.empty.loadScene v = ⟨f, events, .ok s⟩) :
    s = 0 ∧ ∃ fields spec, documentFields v = .ok fields ∧ SceneSpec.read fields = .ok spec ∧
      f.Carries spec := by
  obtain ⟨hs, fields, spec, hfields, hspec, b, hb, hresolve⟩ := raises_loadScene h
  obtain ⟨hshape, hparts, hname⟩ :=
    resolve_eq_ok hb.planted hb.partsBelow (fun p hp => hb.kept hp) hresolve
  refine ⟨hs, fields, spec, hfields, hspec, hshape.planted hb.planted, ?_, ?_, hparts⟩
  · rw [hshape.length, ← hb.names]
    exact List.map_congr_left fun k _ => hname k
  · rw [scene, scene?, hshape.scenes]
    exact hb.sceneName

end SceneBindings.Forest
