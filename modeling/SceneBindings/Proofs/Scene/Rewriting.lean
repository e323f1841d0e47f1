import SceneBindings.Proofs.Scene.Entries

/-!
A scene that is written down and read again. Names come back as they are if they are not empty and
hold no separator, which is what the reader of scenes asks for; components come back by their kinds.
-/

namespace SceneBindings

/-- A name that a stored node may have. -/
def IsNodeName (s : String) : Prop := s ≠ "" ∧ '/' ∉ s.toList

namespace NodeSpec

open Checked

lemma readName_eq_ok [Validator] {v : Value} {s : String} :
    readName v = .ok s ↔ v = .text s ∧ IsNodeName s := by
  rw [readName, check_eq_ok, Value.readNonempty_eq_ok, IsNodeName, and_assoc]
  simp

lemma ofFields_eq_ok [Validator] {fields : List (String × Value)}
    {children : Option (Checked (List NodeSpec))} {t : NodeSpec} : ofFields fields children = .ok t ↔ ∃ name active entries cs,
      required fields "name" readName = .ok name ∧
      optional fields "active" true Validator.readBool = .ok active ∧
      optional fields "components" [] readEntries = .ok entries ∧
      children.getD (.ok []) = .ok cs ∧ ⟨name, active, entries, cs⟩ = t := by
  simp only [ofFields, seq_eq_ok, map_eq_ok, within_eq_ok]
  constructor
  · rintro ⟨_, cs, ⟨_, entries, ⟨_, active, ⟨name, h₁, rfl⟩, h₂, rfl⟩, h₃, rfl⟩, h₄, rfl⟩
    exact ⟨name, active, entries, cs, h₁, h₂, h₃, h₄, rfl⟩
  · rintro ⟨name, active, entries, cs, h₁, h₂, h₃, h₄, rfl⟩
    exact ⟨_, cs, ⟨_, entries, ⟨_, active, ⟨name, h₁, rfl⟩, h₂, rfl⟩, h₃, rfl⟩, h₄, rfl⟩

mutual

theorem names_of_read [Validator] {v : Value} {t : NodeSpec} (h : read v = .ok t) :
    ∀ n ∈ t.names, IsNodeName n := by
  cases v with
  | object fields =>
    rw [read] at h
    obtain ⟨name, active, entries, cs, hname, -, -, hcs, rfl⟩ := ofFields_eq_ok.mp h
    obtain ⟨v, -, hv⟩ := required_eq_ok.mp hname
    rw [names, List.forall_mem_cons]
    refine ⟨(readName_eq_ok.mp hv).2, ?_⟩
    cases hchildren : readChildren fields with
    | none =>
      rw [hchildren] at hcs
      cases hcs
      exact List.forall_mem_nil _
    | some r =>
      rw [hchildren] at hcs
      cases hcs
      exact names_of_readChildren hchildren
  | _ => cases h

theorem names_of_readChildren [Validator] {fields : List (String × Value)} {ts : List NodeSpec}
    (h : readChildren fields = some (.ok ts)) : ∀ n ∈ namesAll ts, IsNodeName n := by
  cases fields with
  | nil => cases h
  | cons field fields =>
    obtain ⟨name, v⟩ := field
    rw [readChildren] at h
    split at h
    · next hr =>
      rw [Option.some.injEq] at h
      rw [h] at hr
      exact names_of_readChildren hr
    · split at h
      · exact names_of_readNodes (Option.some.inj h)
      · cases h

theorem names_of_readNodes [Validator] {v : Value} {ts : List NodeSpec} (h : readNodes v = .ok ts) :
    ∀ n ∈ namesAll ts, IsNodeName n := by
  cases v with
  | list xs =>
    rw [readNodes] at h
    exact names_of_readNodesFrom h
  | _ => cases h

theorem names_of_readNodesFrom [Validator] {i : Nat} {vs : List Value} {ts : List NodeSpec}
    (h : readNodesFrom i vs = .ok ts) : ∀ n ∈ namesAll ts, IsNodeName n := by
  cases vs with
  | nil =>
    cases h
    exact List.forall_mem_nil _
  | cons v vs =>
    rw [readNodesFrom] at h
    obtain ⟨_, ts', hg, hts', rfl⟩ := seq_eq_ok.mp h
    obtain ⟨t, ht, rfl⟩ := map_eq_ok.mp hg
    rw [namesAll, List.forall_mem_append]
    exact ⟨names_of_read (within_eq_ok.mp ht), names_of_readNodesFrom hts'⟩

end

lemma names_of_readScene [Validator] {fields : List (String × Value)} {spec : SceneSpec}
    (h : SceneSpec.read fields = .ok spec) :
    spec.name ≠ "" ∧ ∀ n ∈ namesAll spec.roots, IsNodeName n := by
  simp only [SceneSpec.read, seq_eq_ok, map_eq_ok] at h
  obtain ⟨_, _, ⟨_, roots, ⟨name, hname, rfl⟩, hroots, rfl⟩, -, rfl⟩ := h
  obtain ⟨v, -, hv⟩ := required_eq_ok.mp hname
  refine ⟨(Value.readNonempty_eq_ok.mp hv).2, ?_⟩
  rcases optional_eq_ok.mp hroots with ⟨v, -, hv⟩ | ⟨-, rfl⟩
  · exact names_of_readNodes hv
  · exact List.forall_mem_nil _

end NodeSpec

namespace Forest

open NodeSpec

/-! ### Trees -/

mutual

/-- All components of a tree can be made, and the paths of their parts are texts. -/
def Makeable : NodeSpec → Prop
  | ⟨_, _, entries, children⟩ =>
    (∃ cs, describedComponents entries = .ok cs ∧
      ∀ c ∈ cs, ∀ p ∈ c.1.pendingParts c.2, ∃ path, p.2 = .text path) ∧
      MakeableAll children

def MakeableAll : List NodeSpec → Prop
  | [] => True
  | t :: ts => Makeable t ∧ MakeableAll ts

end

lemma field?_listField {name key : String} (xs : List Value) :
    Value.field? name (listField key xs) = if key = name ∧ xs ≠ [] then some (.list xs) else none := by
  cases xs with
  | nil => simp [listField, Value.field?]
  | cons x xs => simp [listField, Value.field?_singleton]

lemma readChildren_append [Validator] (xs ys : List (String × Value)) :
    readChildren (xs ++ ys) = (readChildren ys <|> readChildren xs) := by
  induction xs with
  | nil =>
    rw [List.nil_append, readChildren]
    cases readChildren ys <;> rfl
  | cons x xs ih =>
    obtain ⟨name, v⟩ := x
    rw [List.cons_append, readChildren, readChildren, ih]
    cases readChildren ys <;> rfl

lemma readChildren_eq_none [Validator] {xs : List (String × Value)} (h : ∀ x ∈ xs, x.1 ≠ "children") :
    readChildren xs = none := by
  induction xs with
  | nil => rfl
  | cons x xs ih =>
    obtain ⟨name, v⟩ := x
    rw [List.forall_mem_cons] at h
    rw [readChildren, ih h.2, if_neg h.1]

section Object

variable (name : String) (active : Bool) (entries cs : List Value)

/-- The fields that a node is written as. -/
def nodeFields : List (String × Value) :=
  ("name", .text name) :: (if active then [] else [("active", .bool false)]) ++
    listField "components" entries ++ listField "children" cs

lemma field?_nodeFields (key : String) : Value.field? key (nodeFields name active entries cs) =
    if key = "name" then some (.text name)
    else if key = "active" ∧ active = false then some (.bool false)
    else if key = "components" ∧ entries ≠ [] then some (.list entries)
    else if key = "children" ∧ cs ≠ [] then some (.list cs)
    else none := by
  rw [nodeFields, Value.field?_append, Value.field?_append, field?_listField, field?_listField]
  cases active
  · simp only [Bool.false_eq_true, if_false]
    rw [show [("name", Value.text name), ("active", .bool false)] =
      [("name", .text name)] ++ [("active", .bool false)] from rfl, Value.field?_append,
      Value.field?_singleton, Value.field?_singleton]
    grind
  · rw [if_pos rfl, Value.field?_singleton]
    grind

end Object

/-- What a node is written as is read with the node's name, activity and entries. -/
lemma read_nodeFields [Validator] {name : String} {entries cs : List Value} {ts : List NodeSpec}
    (hname : IsNodeName name) (active : Bool)
    (hentries : readEntries (.list entries) = .ok entries) (hcs : readNodesFrom 0 cs = .ok ts) :
    NodeSpec.read (.object (nodeFields name active entries cs)) =
      .ok ⟨name, active, entries, ts⟩ := by
  rw [NodeSpec.read, ofFields_eq_ok]
  refine ⟨name, active, entries, ts, ?_, ?_, ?_, ?_, rfl⟩
  · rw [required_eq_ok]
    exact ⟨.text name, by rw [field?_nodeFields, if_pos rfl], readName_eq_ok.mpr ⟨rfl, hname⟩⟩
  · rw [optional_eq_ok, field?_nodeFields]
    cases active <;> simp [Validator.readBool_bool]
  · rw [optional_eq_ok, field?_nodeFields]
    cases entries <;> simp [hentries]
  · have hrest : readChildren (("name", .text name) ::
        (if active then [] else [("active", .bool false)]) ++ listField "components" entries) =
        none := by
      refine readChildren_eq_none ?_
      cases active <;> cases entries <;> simp [listField]
    rw [nodeFields, readChildren_append, hrest]
    cases cs with
    | nil =>
      cases hcs
      rfl
    | cons c cs =>
      rw [← hcs]
      rfl

variable {t : NodeSpec} {ts : List NodeSpec} {sc : Option SceneId} {p : Option Key}

/-- The entries of a node are what its components are written as. -/
def Recorded (f : Forest) (k : Key) (entries : List Value) : Prop :=
  List.Forall₂ (fun c e => f.writeEntry k c = .ok e) (f.node k).components entries

mutual

/-- A written tree is read as a tree of the same layout with the names of the nodes. -/
theorem read_writeNodeTo [Validator] {f : Forest} (hf : f.Ordinary) {sc : Option SceneId} {p : Option Key}
    {t : NodeSpec} {k n : Nat} {v : Value} (hshows : f.Shows k (t.shapes sc p k))
    (hnames : ∀ j : Nat, k ≤ j → j < k + t.size → IsNodeName (f.node j).name)
    (h : f.writeNodeTo n k = .ok v) (hn : t.size ≤ n) :
    ∃ t', read v = .ok t' ∧ (∀ sc p k, t'.shapes sc p k = t.shapes sc p k) ∧
      t'.names = (List.range' k t.size).map (fun j => (f.node j).name) ∧ Makeable t' ∧
      List.Forall₂ f.Recorded (List.range' k t.size) t'.entries := by
  cases t with
  | mk name active entries children =>
    rw [size] at hnames hn
    obtain ⟨n, rfl⟩ : ∃ m, n = m + 1 := ⟨n - 1, by omega⟩
    rw [shapes] at hshows
    obtain ⟨-, hshape, hbelow⟩ := hshows
    have hactive : (f.node k).active = active := congrArg Node.active hshape
    have hchildren : (f.node k).children = keysFrom (k + 1) children :=
      congrArg Node.children hshape
    have hbares : ((f.node k).components.map (·.kind)).map (fun kind => (Component.new kind).bare) =
        bares entries := by
      have hbare : (f.node k).components.map Component.bare = bares entries :=
        congrArg Node.components hshape
      rw [← hbare, List.map_map]
      exact List.map_congr_left fun c hc => (bare_of_genuine (hf.genuine k c hc)).symm
    rw [writeNodeTo] at h
    split at h
    · cases h
    · next es hes =>
      split at h
      · cases h
      · next vs hvs =>
        cases h
        have hrecorded : f.Recorded k es := mapM_eq_ok.mp hes
        have hdescribes : List.Forall₂ Describes es ((f.node k).components.map (·.kind)) := by
          rw [List.forall₂_map_right_iff]
          have hboth := (List.forall₂_and_left _ _).mpr ⟨hf.genuine k, hrecorded⟩
          exact hboth.flip.imp fun c v ⟨hc, hv⟩ => describes_writeEntry hc hv
        have hrecounts := recounts_of_describes hdescribes
        rw [hchildren] at hvs
        obtain ⟨ts, hts, hshapes, hkeys, hnames', hmake, hentries⟩ := read_writeNodes hf hbelow
          (fun j hj hjk => hnames j (by omega) (by omega)) (mapM_eq_ok.mp hvs) (by omega) 0
        obtain ⟨ds, hds, -, hparts⟩ := hrecounts.components
        refine ⟨⟨(f.node k).name, active, es, ts⟩, ?_, fun sc p k => ?_, ?_,
          ⟨⟨ds, hds, fun c hc => (hparts c hc).2⟩, hmake⟩, ?_⟩
        · rw [← hactive]
          exact read_nodeFields (hnames k (Nat.le_refl k) (by omega)) _ hrecounts.readable hts
        · rw [shapes, shapes, hkeys, hshapes, hrecounts.bares_eq (hf.nodup _), hbares]
        · rw [names, size, List.range'_succ, List.map_cons, hnames']
        · rw [NodeSpec.entries, size, List.range'_succ]
          exact .cons hrecorded hentries

theorem read_writeNodes [Validator] {f : Forest} (hf : f.Ordinary) {sc : Option SceneId} {p : Option Key}
    {ts : List NodeSpec} {k n : Nat} {vs : List Value} (hshows : f.Shows k (shapesAll sc p k ts))
    (hnames : ∀ j : Nat, k ≤ j → j < k + sizeAll ts → IsNodeName (f.node j).name)
    (h : List.Forall₂ (fun k v => f.writeNodeTo n k = .ok v) (keysFrom k ts) vs)
    (hn : sizeAll ts ≤ n) (i : Nat) :
    ∃ ts', readNodesFrom i vs = .ok ts' ∧ (∀ sc p k, shapesAll sc p k ts' = shapesAll sc p k ts) ∧
      (∀ k, keysFrom k ts' = keysFrom k ts) ∧
      namesAll ts' = (List.range' k (sizeAll ts)).map (fun j => (f.node j).name) ∧
      MakeableAll ts' ∧ List.Forall₂ f.Recorded (List.range' k (sizeAll ts)) (entriesAll ts') := by
  cases ts with
  | nil =>
    rw [keysFrom, List.forall₂_nil_left_iff] at h
    subst h
    exact ⟨[], rfl, fun _ _ _ => rfl, fun _ => rfl, rfl, trivial, .nil⟩
  | cons t ts =>
    rw [sizeAll] at hn hnames
    obtain ⟨hfirst, hrest⟩ := shows_cons_shapes.mp hshows
    rw [keysFrom, List.forall₂_cons_left_iff] at h
    obtain ⟨v, vs, hv, hvs, rfl⟩ := h
    obtain ⟨t', ht', hshapes, hnames₁, hmake, hentries₁⟩ := read_writeNodeTo hf hfirst
      (fun j hj hjk => hnames j hj (by omega)) hv (by omega)
    obtain ⟨ts', hts', hshapes', hkeys', hnames₂, hmake', hentries₂⟩ := read_writeNodes hf hrest
      (fun j hj hjk => hnames j (by omega) (by omega)) hvs (by omega) (i + 1)
    have hsize : t'.size = t.size := by
      rw [← length_shapes none none 0 t', hshapes, length_shapes]
    refine ⟨t' :: ts', ?_, fun sc p k => ?_, fun k => ?_, ?_, ⟨hmake, hmake'⟩, ?_⟩
    · rw [readNodesFrom, ht', hts']
      rfl
    · rw [shapesAll, shapesAll, hshapes, hsize, hshapes']
    · rw [keysFrom, keysFrom, hsize, hkeys']
    · rw [namesAll, sizeAll, hnames₁, hnames₂, ← List.map_append, List.range'_append_1]
    · rw [entriesAll, sizeAll, ← List.range'_append_1]
      exact List.rel_append hentries₁ hentries₂

end

/-! ### Making a tree again -/

/-- No part is named by anything but a text. -/
def Resolvable (ps : List Pending) : Prop := ∀ p ∈ ps, ∀ q ∈ p.parts, ∃ path, q.2 = .text path

lemma resolvable_pendingOf {owner : Key} {cs : List (Component × Value)} :
    Resolvable (pendingOf owner cs) ↔
      ∀ c ∈ cs, ∀ p ∈ c.1.pendingParts c.2, ∃ path, p.2 = .text path := by
  induction cs with
  | nil => exact iff_of_true (List.forall_mem_nil _) (List.forall_mem_nil _)
  | cons c cs ih =>
    rw [Resolvable, pendingOf, List.forall_mem_cons, List.forall_mem_cons]
    exact and_congr_right fun _ => ih

mutual

theorem build_eq_ok {t : NodeSpec} (ht : Makeable t) {b : Built} (hb : Resolvable b.pending) :
    ∃ b' k, build b t = (b', .ok k) ∧ Resolvable b'.pending := by
  cases t with
  | mk name active entries children =>
    obtain ⟨⟨cs, hcs, hparts⟩, hchildren⟩ := ht
    obtain ⟨b', hb', hresolvable⟩ := buildAll_eq_ok hchildren (b.forest.nodes.length + 1)
      (b := ⟨b.forest.begin name active cs, b.pending ++ pendingOf (b.forest.nodes.length + 1) cs⟩)
      (List.forall_mem_append.mpr ⟨hb, resolvable_pendingOf.mpr hparts⟩)
    refine ⟨b', b.forest.nodes.length + 1, ?_, hresolvable⟩
    rw [build_eq b hcs, hb']
    rfl

theorem buildAll_eq_ok {ts : List NodeSpec} (hts : MakeableAll ts) (parent : Key) {b : Built}
    (hb : Resolvable b.pending) :
    ∃ b', buildAll b parent ts = (b', .ok ()) ∧ Resolvable b'.pending := by
  cases ts with
  | nil => exact ⟨b, rfl, hb⟩
  | cons t ts =>
    obtain ⟨b₁, k, hfirst, hb₁⟩ := build_eq_ok hts.1 hb
    obtain ⟨b', hrest, hb'⟩ := buildAll_eq_ok hts.2 parent
      (b := { b₁ with forest := b₁.forest.setParent k (some parent) }) hb₁
    exact ⟨b', by rw [buildAll, hfirst]; exact hrest, hb'⟩

end

lemma buildRoots_eq_ok {ts : List NodeSpec} (hts : MakeableAll ts) (s : SceneId) {b : Built}
    (hb : Resolvable b.pending) :
    ∃ b', buildRoots b s ts = (b', .ok ()) ∧ Resolvable b'.pending := by
  induction ts generalizing b with
  | nil => exact ⟨b, rfl, hb⟩
  | cons t ts ih =>
    obtain ⟨b₁, k, hfirst, hb₁⟩ := build_eq_ok hts.1 hb
    obtain ⟨b', hrest, hb'⟩ := ih hts.2 (b := { b₁ with forest := b₁.forest.addRoot s k }) hb₁
    exact ⟨b', by rw [buildRoots, hfirst]; exact hrest, hb'⟩

lemma exists_resolveParts_eq_ok {ps : List (String × Value)} (h : ∀ p ∈ ps, ∃ path, p.2 = .text path)
    (f : Forest) (owner : Key) (c : Component) (events : List Event) :
    ∃ d events', f.resolveParts owner c events ps = (d, events', .ok ()) := by
  induction ps generalizing c events with
  | nil => exact ⟨c, events, rfl⟩
  | cons p ps ih =>
    rw [List.forall_mem_cons] at h
    obtain ⟨⟨path, hpath⟩, hrest⟩ := h
    obtain ⟨d, es, hone⟩ : ∃ d es, f.resolvePart owner c p = .ok (d, es) := by
      unfold resolvePart
      rw [hpath]
      dsimp only
      split <;> exact ⟨_, _, rfl⟩
    obtain ⟨d', events', hmore⟩ := ih hrest d (events ++ es)
    exact ⟨d', events', by rw [resolveParts, hone]; exact hmore⟩

lemma exists_resolve_eq_ok {ps : List Pending} (h : Resolvable ps) (f : Forest)
    (events : List Event) : ∃ g events', f.resolve events ps = (g, events', .ok ()) := by
  induction ps generalizing f events with
  | nil => exact ⟨f, events, rfl⟩
  | cons p ps ih =>
    rw [Resolvable, List.forall_mem_cons] at h
    obtain ⟨d, es, hone⟩ := exists_resolveParts_eq_ok h.1 f p.owner p.component events
    obtain ⟨g, events', hmore⟩ := ih h.2
      (if p.superseded then f else f.modifyComponent p.owner p.component.label fun _ => d) es
    exact ⟨g, events', by rw [resolve, hone]; exact hmore⟩

/-! ### Scenes -/

/-- The second forest differs from the first in what its components hold, but not in their kinds and
labels. -/
structure Alike (f g : Forest) : Prop extends Reshaped f g where
  name : ∀ k, (g.node k).name = (f.node k).name

lemma Shows.shape_eq {f g : Forest} {k j : Nat} {ns : List Node} (hf : f.Shows k ns)
    (hg : g.Shows k ns) (hj : k ≤ j) (hjk : j < k + ns.length) :
    (g.node j).shape = (f.node j).shape := by
  induction ns generalizing k with
  | nil =>
    rw [List.length_nil] at hjk
    omega
  | cons n ns ih =>
    rw [List.length_cons] at hjk
    rcases Nat.eq_or_lt_of_le hj with rfl | hlt
    · rw [hf.2.1, hg.2.1]
    · exact ih hf.2.2 hg.2.2 hlt (by omega)

lemma Planted.scenes_eq {f : Forest} {ts : List NodeSpec} (hf : f.Planted ts) :
    f.scenes = [⟨(f.scene 0).name, keysFrom 1 ts⟩] := by
  obtain ⟨sc, hsc⟩ := List.length_eq_one_iff.mp hf.only
  have hscene : f.scene 0 = sc := by
    rw [scene, scene?, hsc]
    rfl
  have hroots := hf.roots
  rw [Forest.roots, hscene] at hroots
  rw [hsc, hscene, ← hroots]

lemma Planted.alike {f g : Forest} {ts : List NodeSpec} (hf : f.Planted ts) (hg : g.Planted ts)
    (hscene : (g.scene 0).name = (f.scene 0).name)
    (hnames : (List.range' 1 g.nodes.length).map (fun j => (g.node j).name) =
      (List.range' 1 f.nodes.length).map (fun j => (f.node j).name)) : Alike f g := by
  have hlength : g.nodes.length = f.nodes.length := hg.length.trans hf.length.symm
  rw [hlength] at hnames
  have hboth : ∀ k, (g.node k).shape = (f.node k).shape ∧ (g.node k).name = (f.node k).name := by
    intro k
    by_cases hk : f.IsNode k
    · have hbounds := isNode_iff.mp hk
      refine ⟨hf.shows.shape_eq hg.shows hbounds.1 ?_, ?_⟩
      · rw [length_shapesAll, ← hf.length, Nat.add_comm]
        exact Nat.lt_succ_of_le hbounds.2
      · refine List.map_inj_left.mp hnames k (List.mem_range'_1.mpr ⟨hbounds.1, ?_⟩)
        rw [Nat.add_comm]
        exact Nat.lt_succ_of_le hbounds.2
    · rw [node_of_not_isNode hk, node_of_not_isNode fun h => hk ((isNode_of_length hlength).mp h)]
      exact ⟨rfl, rfl⟩
  refine ⟨⟨hlength, ?_, fun k => (hboth k).1⟩, fun k => (hboth k).2⟩
  rw [hg.scenes_eq, hf.scenes_eq, hscene]

/-- The names of a loaded scene can be read again. -/
lemma Carries.names_readable [Validator] {f : Forest} {spec : SceneSpec} {fields : List (String × Value)}
    (h : f.Carries spec) (hspec : SceneSpec.read fields = .ok spec) :
    (f.scene 0).name ≠ "" ∧ ∀ k, f.IsNode k → IsNodeName (f.node k).name := by
  obtain ⟨hname, hnames⟩ := names_of_readScene hspec
  refine ⟨h.sceneName ▸ hname, fun k hk => hnames _ ?_⟩
  rw [← h.names, ← h.planted.walk]
  exact List.mem_map_of_mem (f := fun k => (f.node k).name) (h.planted.mem_walk.mpr hk)

lemma readScene_of_writeScene [Validator] {f : Forest} {ts : List NodeSpec} {v : Value}
    (hf : f.Planted ts) (hordinary : f.Ordinary) (hscene : (f.scene 0).name ≠ "")
    (hnames : ∀ k, f.IsNode k → IsNodeName (f.node k).name)
    (h : f.writeScene 0 = .ok v) : ∃ fields spec, documentFields v = .ok fields ∧
      SceneSpec.read fields = .ok spec ∧ MakeableAll spec.roots ∧ spec.name = (f.scene 0).name ∧
      (∀ sc p k, shapesAll sc p k spec.roots = shapesAll sc p k ts) ∧
      (∀ k, keysFrom k spec.roots = keysFrom k ts) ∧
      namesAll spec.roots = (List.range' 1 f.nodes.length).map (fun j => (f.node j).name) ∧
      List.Forall₂ f.Recorded (List.range' 1 f.nodes.length) (entriesAll spec.roots) := by
  rw [writeScene] at h
  cases hvs : (f.roots 0).mapM (f.writeNodeTo f.nodes.length) with
  | error e =>
    rw [hvs] at h
    cases h
  | ok vs =>
    rw [hvs] at h
    cases h
    have hlength := hf.length
    have hvs' := mapM_eq_ok.mp hvs
    rw [hf.roots] at hvs'
    obtain ⟨ts', hts', hshapes, hkeys, hnames', hmake, hentries⟩ :=
      read_writeNodes hordinary hf.shows
      (fun j hj hjk => hnames j (isNode_iff.mpr (by omega))) hvs' (Nat.le_of_eq hlength.symm) 0
    refine ⟨_, ⟨(f.scene 0).name, ts'⟩, rfl, ?_, hmake, rfl, hshapes, hkeys, hlength ▸ hnames',
      hlength ▸ hentries⟩
    simp only [SceneSpec.read, Checked.seq_eq_ok, Checked.map_eq_ok]
    refine ⟨_, none, ⟨_, ts', ⟨(f.scene 0).name, ?_, rfl⟩, ?_, rfl⟩, ?_, rfl⟩
    · exact required_eq_ok.mpr ⟨_, rfl, Value.readNonempty_eq_ok.mpr ⟨rfl, hscene⟩⟩
    · exact optional_eq_ok.mpr (.inl ⟨_, rfl, hts'⟩)
    · exact optional_eq_ok.mpr (.inr ⟨rfl, rfl⟩)

/-- A scene that was written down can be loaded again, and only what components hold is not sure to
be the same. -/
theorem alike_of_writeScene [Validator] {f : Forest} {ts : List NodeSpec} {v : Value}
    (hf : f.Planted ts) (hordinary : f.Ordinary) (hscene : (f.scene 0).name ≠ "")
    (hnames : ∀ k, f.IsNode k → IsNodeName (f.node k).name) (h : f.writeScene 0 = .ok v) :
    ∃ g events, Forest.empty.loadScene v = ⟨g, events, .ok 0⟩ ∧ Alike f g := by
  obtain ⟨fields, spec, hfields, hspec, hmake, hname, hshapes, hkeys, hnames', -⟩ :=
    readScene_of_writeScene hf hordinary hscene hnames h
  obtain ⟨b, hb, hresolvable⟩ := buildRoots_eq_ok hmake 0 (b := ⟨(empty.addScene spec.name).1, []⟩)
    (List.forall_mem_nil _)
  obtain ⟨g, events, hg⟩ := exists_resolve_eq_ok hresolvable b.forest []
  have hload : Forest.empty.loadScene v = ⟨g, events, .ok 0⟩ := by
    have hscene0 : (empty.addScene spec.name).2 = 0 := rfl
    simp only [loadScene, hfields, hspec, hscene0, hb, hg]
    rfl
  obtain ⟨-, fields', spec', hfields', hspec', hcarries⟩ := carries_loadScene hload
  rw [hfields] at hfields'
  cases hfields'
  rw [hspec] at hspec'
  cases hspec'
  have hsize : sizeAll spec.roots = sizeAll ts := by
    rw [← length_shapesAll none none 0 spec.roots, hshapes, length_shapesAll]
  have hg' := hcarries.planted
  have hplanted : g.Planted ts := by
    refine ⟨hg'.length.trans hsize, ?_, hg'.only, ?_⟩
    · rw [← hshapes]
      exact hg'.shows
    · rw [← hkeys]
      exact hg'.roots
  refine ⟨g, events, hload, hf.alike hplanted (hcarries.sceneName.trans hname) ?_⟩
  rw [hcarries.names, hnames']

end Forest

end SceneBindings
