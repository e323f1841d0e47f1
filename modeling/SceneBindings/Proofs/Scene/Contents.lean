import SceneBindings.Proofs.Scene.Planted

/-!
What loading puts into the nodes of a scene: the components that the entries of a node describe, one
of each label, and in these the parts that were found.
-/

namespace SceneBindings.Forest

open NodeSpec

variable {f g : Forest} {k : Key}

/-! ### Looking up -/

lemma find?_congr (hchildren : ∀ j, (g.node j).children = (f.node j).children)
    (hname : ∀ j, (g.node j).name = (f.node j).name) : g.find? = f.find? := by
  have hdescend : ∀ (names : List String) (k : Key), g.descend? k names = f.descend? k names := by
    intro names
    induction names with
    | nil => exact fun _ => rfl
    | cons name names ih =>
      intro k
      have hchild : g.child? k name = f.child? k name := by
        simp only [child?, hchildren, hname]
      rw [descend?, descend?, hchild]
      cases f.child? k name with
      | none => rfl
      | some c => exact ih c
  funext k path
  exact hdescend _ k

lemma equip_congr (h : g.find? = f.find?) : g.equip = f.equip := by
  have hfit : g.fit = f.fit := by
    funext owner c p
    rw [fit, fit, h]
  funext owner c ps
  rw [equip, equip, hfit]

lemma find?_modifyComponent (f : Forest) (k : Key) (label : Value) (u : Component → Component) :
    (f.modifyComponent k label u).find? = f.find? :=
  find?_congr (fun j => node_modify_keeps (·.children) f k j)
    fun j => node_modify_keeps (·.name) f k j

lemma components_modifyComponent (f : Forest) (owner k : Key) (label : Value)
    (u : Component → Component) : ((f.modifyComponent owner label u).node k).components =
      (f.node k).components.map fun c =>
        if k = owner ∧ c.label.sameKey label = true then u c else c := by
  rw [modifyComponent, node_modify]
  split
  · next h =>
    rw [h.1]
    simp only [true_and]
  · next h =>
    by_cases hk : k = owner
    · have hnone : ¬ f.IsNode k := fun hnode => h ⟨hk, hk ▸ hnode⟩
      rw [node_of_not_isNode hnone]
      rfl
    · simp only [hk, false_and, if_false, List.map_id_fun', id_eq]

/-- A component of a node, once a pending one was put in its place if that has its label. -/
def settled (f : Forest) (k : Key) (c : Component) (p : Pending) : Component :=
  if p.superseded = false ∧ p.owner = k ∧ c.label.sameKey p.component.label = true then
    f.equip p.owner p.component p.parts
  else c

lemma settled_congr (h : g.find? = f.find?) : g.settled = f.settled := by
  funext k c p
  rw [settled, settled, equip_congr h]

/-- Looking up parts changes nothing but components. -/
lemma components_resolve {ps : List Pending} {events events' : List Event}
    (h : f.resolve events ps = (g, events', .ok ())) : g.find? = f.find? ∧
      ∀ k, (g.node k).components = (f.node k).components.map fun c => ps.foldl (f.settled k) c := by
  induction ps generalizing f events with
  | nil =>
    cases h
    exact ⟨rfl, fun k => (List.map_id _).symm⟩
  | cons p ps ih =>
    rw [resolve] at h
    rcases hone : f.resolveParts p.owner p.component events p.parts with ⟨d, es, r⟩
    rw [hone] at h
    dsimp only at h
    cases r with
    | error e => cases h
    | ok u =>
      obtain ⟨f₁, hf₁⟩ : ∃ f₁, f₁ = if p.superseded then f
        else f.modifyComponent p.owner p.component.label fun _ => d := ⟨_, rfl⟩
      rw [← hf₁] at h
      have hstep : f₁.find? = f.find? ∧ ∀ k, (f₁.node k).components =
          (f.node k).components.map fun c => f.settled k c p := by
        rw [hf₁]
        split
        · next hsuperseded =>
          refine ⟨rfl, fun k => ?_⟩
          simp only [settled, hsuperseded, Bool.true_eq_false, false_and, if_false,
            List.map_id_fun', id_eq]
        · next hlast =>
          refine ⟨find?_modifyComponent f _ _ _, fun k => ?_⟩
          rw [components_modifyComponent, resolveParts_eq_ok hone]
          simp only [settled, Bool.eq_false_iff.mpr hlast, true_and, eq_comm (a := k)]
      obtain ⟨hfind, hcomponents⟩ := ih h
      refine ⟨hfind.trans hstep.1, fun k => ?_⟩
      rw [hcomponents, hstep.2, List.map_map, settled_congr hstep.1]
      rfl

/-! ### What is kept -/

/-- A described component after its parts were looked up. -/
def equipped (f : Forest) (k : Key) (e : Component × Value) : Component :=
  f.equip k e.1 (e.1.pendingParts e.2)

lemma label_equip (f : Forest) (owner : Key) (c : Component) (ps : List (String × Value)) :
    (f.equip owner c ps).label = c.label := by
  rw [← Component.label_bare, bare_equip, Component.label_bare]

lemma kind_equip (f : Forest) (owner : Key) (c : Component) (ps : List (String × Value)) :
    (f.equip owner c ps).kind = c.kind :=
  (congrArg Component.kind (bare_equip f owner c ps) :)

/-- An entry whose component is kept has no later one that takes its place. -/
lemma exists_pendingOf {es ds : List (Component × Value)} {x : Component × Value}
    (hkeys : ∀ e ∈ es, e.1.label.isKey = true) (hx : x ∈ es.foldl putEntry ds) :
    (x ∈ ds ∧ ∀ e ∈ es, x.1.label.sameKey e.1.label = false) ∨ ∃ p ∈ pendingOf k es,
      p.superseded = false ∧ p.component = x.1 ∧ p.parts = x.1.pendingParts x.2 := by
  induction es generalizing ds with
  | nil => exact .inl ⟨hx, List.forall_mem_nil _⟩
  | cons e es ih =>
    rw [List.forall_mem_cons] at hkeys
    rcases ih hkeys.2 hx with ⟨hput, hnone⟩ | ⟨p, hp, hlast⟩
    · rcases mem_putEntry hput with rfl | ⟨hds, hother⟩
      · refine .inr ⟨_, List.mem_cons_self, List.any_eq_false.mpr fun d hd => ?_, rfl, rfl⟩
        rw [Value.sameKey_comm (hkeys.2 d hd) hkeys.1, hnone d hd]
        exact Bool.false_ne_true
      · exact .inl ⟨hds, List.forall_mem_cons.mpr ⟨hother, hnone⟩⟩
    · exact .inr ⟨p, List.mem_cons_of_mem _ hp, hlast⟩

/-- The pending components of a node that have the label of one of its entries are that of the entry. -/
def Own (ps : List Pending) (k : Key) (x : Component × Value) : Prop :=
  ∀ p ∈ ps, p.superseded = false → p.owner = k → x.1.label.sameKey p.component.label = true →
    p.component = x.1 ∧ p.parts = x.1.pendingParts x.2

lemma Own.settled {ps : List Pending} {x : Component × Value} (h : Own ps k x) {p : Pending}
    (hp : p ∈ ps) {c : Component} (hc : c.label = x.1.label) : f.settled k c p = f.equipped k x ∨
      f.settled k c p = c ∧ ¬ (p.superseded = false ∧ p.owner = k ∧ p.component = x.1) := by
  rw [Forest.settled]
  split
  · next hplace =>
    obtain ⟨hcomponent, hparts⟩ := h p hp hplace.1 hplace.2.1 (hc ▸ hplace.2.2)
    rw [hplace.2.1, hcomponent, hparts]
    exact .inl rfl
  · next hplace =>
    refine .inr ⟨rfl, fun ⟨hlast, howner, hcomponent⟩ => hplace ⟨hlast, howner, ?_⟩⟩
    rw [hc, hcomponent]
    exact Value.sameKey_self _

/-- What comes of a component that is kept: it gets its own parts. -/
lemma Own.foldl_settled {ps : List Pending} {x : Component × Value} (h : Own ps k x) {c : Component}
    (hc : c.label = x.1.label) (hpending : c = f.equipped k x ∨
      ∃ p ∈ ps, p.superseded = false ∧ p.owner = k ∧ p.component = x.1) :
    ps.foldl (f.settled k) c = f.equipped k x := by
  induction ps generalizing c with
  | nil => exact hpending.resolve_right fun ⟨p, hp, _⟩ => by cases hp
  | cons p ps ih =>
    rw [List.foldl_cons]
    have hrest : Own ps k x := fun q hq => h q (List.mem_cons_of_mem p hq)
    rcases h.settled (f := f) List.mem_cons_self hc with hequipped | ⟨hsame, hother⟩
    · rw [hequipped]
      exact ih hrest (label_equip f k x.1 _) (.inl rfl)
    · rw [hsame]
      refine ih hrest hc (hpending.imp_right ?_)
      rintro ⟨q, hq, hplace⟩
      exact ⟨q, (List.mem_cons.mp hq).resolve_left fun hqp => hother (hqp ▸ hplace), hplace⟩

/-- The nodes of a forest hold what a described scene puts into them. -/
def Holds (f : Forest) (ts : List NodeSpec) : Prop :=
  ∀ i : Nat, (f.node (1 + i)).components =
    (installed (described ((entriesAll ts).getD i []))).map (f.equipped (1 + i))

/-- The parts that a node asks for are those that its components name. -/
lemma mem_pendingOf_of_owner {p : Pending} {i : Nat} {css : List (List (Component × Value))}
    (h : p ∈ pendingFrom 1 css) (howner : p.owner = 1 + i) :
    p ∈ pendingOf (1 + i) (css.getD i []) := by
  obtain ⟨j, hj⟩ := mem_pendingFrom.mp h
  obtain rfl : j = i := by
    have hsame := (mem_pendingOf hj).1.symm.trans howner
    exact Nat.add_left_cancel hsame
  exact hj

lemma isKey_of_mem_described {entries : List Value} {e : Component × Value}
    (h : e ∈ described entries) : e.1.label.isKey = true := by
  have hfit := (Component.ofEntry_eq_ok.mp (mem_described h).2).2
  rw [Bool.and_eq_true] at hfit
  exact hfit.1

lemma holds_of_resolve {spec : SceneSpec} {events : List Event} (hf : f.Raised spec)
    (h : f.resolve [] (pendingFrom 1 ((entriesAll spec.roots).map described)) = (g, events, .ok ())) :
    g.Holds spec.roots := by
  obtain ⟨hfind, hcomponents⟩ := components_resolve h
  intro i
  rw [hcomponents, hf.components, List.map_map]
  refine List.map_congr_left fun x hx => ?_
  have hown : Own (pendingFrom 1 ((entriesAll spec.roots).map described)) (1 + i) x := by
    intro p hp hlast howner hlabel
    have hp := mem_pendingOf_of_owner hp howner
    rw [getD_described] at hp
    exact eq_of_mem_installed hp hlast hx hlabel
  rw [Function.comp_apply, hown.foldl_settled rfl (.inr ?_), equipped, equipped, equip_congr hfind]
  obtain ⟨hnil, -⟩ | ⟨p, hp, hlast, hcomponent, -⟩ :=
    exists_pendingOf (k := 1 + i) (fun e => isKey_of_mem_described) hx
  · cases hnil
  · exact ⟨p, mem_pendingFrom.mpr ⟨i, by rwa [getD_described]⟩, hlast, (mem_pendingOf hp).1,
      hcomponent⟩

lemma holds_loadScene [Validator] {v : Value} {s : SceneId} {events : List Event}
    {fields : List (String × Value)} {spec : SceneSpec}
    (h : Forest.empty.loadScene v = ⟨f, events, .ok s⟩) (hfields : documentFields v = .ok fields)
    (hspec : SceneSpec.read fields = .ok spec) : f.Holds spec.roots := by
  obtain ⟨-, fields', spec', hfields', hspec', b, hb, hresolve⟩ := raises_loadScene h
  rw [hfields] at hfields'
  cases hfields'
  rw [hspec] at hspec'
  cases hspec'
  exact holds_of_resolve hb hresolve

lemma isNode_of_mem_components {c : Component} (hc : c ∈ (f.node k).components) : f.IsNode k := by
  by_contra hk
  rw [node_of_not_isNode hk] at hc
  cases hc

lemma mem_entriesAll_of_described {ts : List NodeSpec} {i : Nat} {e : Component × Value}
    (he : e ∈ described ((entriesAll ts).getD i [])) : (entriesAll ts).getD i [] ∈ entriesAll ts := by
  rcases Nat.lt_or_ge i (entriesAll ts).length with hi | hi
  · rw [List.getD_eq_getElem _ _ hi]
    exact List.getElem_mem hi
  · rw [List.getD_eq_default _ _ hi] at he
    cases he

/-- A component of a node is described by an entry of the node. -/
lemma Holds.exists_entry {ts : List NodeSpec} {c : Component} (h : f.Holds ts)
    (hc : c ∈ (f.node k).components) : ∃ entries ∈ entriesAll ts, ∃ e ∈ described entries,
      c = f.equipped k e := by
  obtain ⟨i, rfl⟩ := Nat.exists_eq_add_of_le (isNode_iff.mp (isNode_of_mem_components hc)).1
  rw [h i] at hc
  obtain ⟨e, he, rfl⟩ := List.mem_map.mp hc
  have he := mem_installed he
  exact ⟨_, mem_entriesAll_of_described he, e, he, rfl⟩

/-! ### Parts -/

/-- The node that a value leads to, if it is a path. -/
def lead? (f : Forest) (owner : Key) (v : Value) : Option Key := v.text?.bind (f.find? owner)

lemma attributes_equip (f : Forest) (owner : Key) (c : Component) (ps : List (String × Value)) :
    (f.equip owner c ps).attributes = c.attributes := by
  induction ps generalizing c with
  | nil => rfl
  | cons p ps ih =>
    rw [equip, List.foldl_cons]
    refine (ih _).trans ?_
    rcases fit_cases f owner c p with h | ⟨-, k, -, -, h⟩ <;> rw [h]
    rfl

lemma part?_fit {owner : Key} {c : Component} {p : String × Value} (hc : c.part? "node" = none)
    (part : String) : (f.fit owner c p).part? part =
      if p.1 = part then (f.lead? owner p.2).or (c.part? part) else c.part? part := by
  have hbase : c.base owner = owner := by
    rw [Component.base, hc]
    rfl
  unfold fit
  split
  · next path hpath =>
    rw [hbase, hpath, lead?, Value.text?, Option.bind_some]
    cases f.find? owner path with
    | none => simp
    | some k =>
      dsimp only
      rw [Component.part?, Component.setPart, Table.get?_put]
      rfl
  · next hno =>
    have hnone : p.2.text? = none := by
      cases hv : p.2 with
      | text path => exact absurd hv (hno path)
      | _ => rfl
    simp [lead?, hnone]

/-- Parts with names of their own are the nodes that their paths lead to. -/
lemma part?_equip {owner : Key} {c : Component} {ps : List (String × Value)}
    (hc : c.part? "node" = none) (hnames : ∀ p ∈ ps, p.1 ≠ "node") (hnodup : (ps.map (·.1)).Nodup)
    (part : String) : (f.equip owner c ps).part? part =
      ((Table.lookup part ps).bind (f.lead? owner)).or (c.part? part) := by
  induction ps generalizing c with
  | nil => rfl
  | cons p ps ih =>
    rw [List.forall_mem_cons] at hnames
    rw [List.map_cons, List.nodup_cons] at hnodup
    have hfit : (f.fit owner c p).part? "node" = none := by
      rw [part?_fit hc, if_neg hnames.1, hc]
    rw [equip, List.foldl_cons, ← equip, ih hfit hnames.2 hnodup.2, part?_fit hc, Table.lookup]
    split
    · next hpart =>
      have hnone : Table.lookup part ps = none := by
        rw [← Option.not_isSome_iff_eq_none, Table.lookup_isSome, ← hpart]
        exact hnodup.1
      rw [hnone]
      rfl
    · rfl

end SceneBindings.Forest
