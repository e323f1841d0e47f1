import SceneBindings.Proofs.Scene.Layout

/-!
What building a described tree adds to a forest: new nodes behind the old ones, laid out as the
description says, and a new child for the node that the tree is hung below.
-/

namespace SceneBindings

open NodeSpec

namespace ComponentKind

lemma ofLabel?_label (kind : ComponentKind) : ofLabel? kind.label = some kind := by
  cases kind <;> decide

lemma label_of_ofLabel? {kind : ComponentKind} {s : String} (h : ofLabel? s = some kind) :
    kind.label = s := by
  have hlabel := List.find?_some h
  exact beq_iff_eq.mp hlabel

lemma label_injective {kind kind' : ComponentKind} (h : kind.label = kind'.label) :
    kind = kind' := by
  have hlabel := kind.ofLabel?_label
  rw [h, kind'.ofLabel?_label] at hlabel
  exact (Option.some.inj hlabel).symm

end ComponentKind

namespace Component

lemma kindOf_label (kind : ComponentKind) : kindOf (.text kind.label) = .ok kind := by
  rw [kindOf, kind.ofLabel?_label]

lemma kindOf_eq_ok {v : Value} {kind : ComponentKind} :
    kindOf v = .ok kind ↔ v = .text kind.label := by
  constructor
  · intro h
    cases v with
    | text s =>
      rw [kindOf] at h
      split at h
      · next k hk =>
        cases h
        exact congrArg Value.text (ComponentKind.label_of_ofLabel? hk).symm
      · cases h
    | _ => cases h
  · rintro rfl
    exact kindOf_label kind

lemma setField_eq_ok {c d : Component} {name : String} {v : Value}
    (h : c.setField name v = .ok d) : d.kind = c.kind ∧
      (name ≠ "__dict__" ∧ d = c.setAttribute name v ∨ name = "__dict__" ∧ ∃ fields, v = .object fields ∧
        d = { c with attributes := .ofList fields, listeners := none }) := by
  unfold setField at h
  split_ifs at h with hclass href hdict
  · split at h
    · next fields =>
      cases h
      exact ⟨rfl, .inr ⟨hdict, fields, rfl, rfl⟩⟩
    · cases h
  · cases h
    exact ⟨rfl, .inl ⟨hdict, rfl⟩⟩

lemma takeField_eq_ok {c d : Component} {name : String} {v : Value}
    (h : c.takeField name v = .ok d) : d = c ∨ c.setField name v = .ok d := by
  rw [takeField] at h
  split at h
  · exact .inl (Except.ok.inj h).symm
  · split at h
    · exact .inr h
    · cases h

/-- Taking over fields does not change the kind, and finds no parts. -/
lemma parts_takeFields {c d : Component} {fields : List (String × Value)}
    (h : c.takeFields fields = .ok d) (hc : c.parts = .empty) :
    d.kind = c.kind ∧ d.parts = .empty := by
  induction fields generalizing c with
  | nil =>
    cases h
    exact ⟨rfl, hc⟩
  | cons field fields ih =>
    obtain ⟨name, v⟩ := field
    rw [takeFields] at h
    split at h
    · next c' hc' =>
      have hstep : c'.kind = c.kind ∧ c'.parts = .empty := by
        rcases takeField_eq_ok hc' with rfl | hset
        · exact ⟨rfl, hc⟩
        · obtain ⟨hkind, ⟨-, rfl⟩ | ⟨-, values, -, rfl⟩⟩ := setField_eq_ok hset
          · exact ⟨hkind, by rw [setAttribute, hc]; rfl⟩
          · exact ⟨hkind, hc⟩
      obtain ⟨hkind, hparts⟩ := ih h hstep.2
      exact ⟨hkind.trans hstep.1, hparts⟩
    · cases h

/-- What is described is a new component that took fields over. -/
lemma ofDescription_eq_ok {v : Value} {c : Component} (h : ofDescription v = .ok c) :
    ∃ fields, (new c.kind).takeFields fields = .ok c ∧
      (v = .text c.kind.label ∧ fields = [] ∨
        v = .object fields ∧ Value.field? "type" fields = some (.text c.kind.label)) := by
  cases v with
  | text s =>
    rw [ofDescription] at h
    cases hk : kindOf (.text s) with
    | ok kind =>
      rw [hk] at h
      cases h
      exact ⟨[], rfl, .inl ⟨kindOf_eq_ok.mp hk, rfl⟩⟩
    | error e =>
      rw [hk] at h
      cases h
  | object fields =>
    rw [ofDescription] at h
    split at h
    · next kind hk =>
      obtain rfl : c.kind = kind := (parts_takeFields h rfl).1
      refine ⟨fields, h, .inr ⟨rfl, ?_⟩⟩
      have htype := kindOf_eq_ok.mp hk
      cases hfield : Value.field? "type" fields with
      | none =>
        rw [hfield] at htype
        cases htype
      | some t =>
        rw [hfield] at htype
        exact congrArg some htype
    · cases h
  | _ => cases h

lemma parts_ofDescription {v : Value} {c : Component} (h : ofDescription v = .ok c) :
    c.parts = .empty := by
  obtain ⟨fields, hfields, -⟩ := ofDescription_eq_ok h
  exact (parts_takeFields hfields rfl).2

lemma ofEntry_eq_ok {v : Value} {c : Component} : ofEntry v = .ok c ↔
    ofDescription v = .ok c ∧ (c.label.isKey && c.tellsParts) = true := by
  rw [ofEntry]
  cases ofDescription v with
  | error e => simp
  | ok d =>
    dsimp only
    split
    · next hfit =>
      refine ⟨fun h => ?_, fun h => h.1⟩
      cases h
      exact ⟨rfl, hfit⟩
    · next hfit =>
      refine ⟨fun h => (by cases h), fun h => ?_⟩
      cases h.1
      exact absurd h.2 hfit

end Component

namespace Forest

lemma mem_describedComponents_iff {vs : List Value} {cs : List (Component × Value)}
    (h : describedComponents vs = .ok cs) {c : Component × Value} :
    c ∈ cs ↔ c.2 ∈ vs ∧ Component.ofEntry c.2 = .ok c.1 := by
  induction vs generalizing cs with
  | nil =>
    cases h
    exact ⟨nofun, fun hc => nomatch hc.1⟩
  | cons v vs ih =>
    rw [describedComponents] at h
    split at h
    · cases h
    · next d hd =>
      split at h
      · cases h
      · next cs' hcs =>
        cases h
        rw [List.mem_cons, List.mem_cons, ih hcs, or_and_right, Prod.ext_iff]
        refine or_congr_left ⟨?_, ?_⟩
        · rintro ⟨hc, hv⟩
          exact ⟨hv, by rw [hc, hv, hd]⟩
        · rintro ⟨hv, hc⟩
          rw [hv, hd] at hc
          exact ⟨(Except.ok.inj hc).symm, hv⟩

lemma mem_putEntry {es : List (Component × Value)} {c e : Component × Value}
    (h : c ∈ putEntry es e) : c = e ∨ c ∈ es ∧ c.1.label.sameKey e.1.label = false := by
  rw [putEntry] at h
  split at h
  · obtain ⟨d, hd, rfl⟩ := List.mem_map.mp h
    split
    · exact .inl rfl
    · next hlabel => exact .inr ⟨hd, Bool.eq_false_iff.mpr hlabel⟩
  · next hnone =>
    rcases List.mem_append.mp h with hc | hc
    · exact .inr ⟨hc, Bool.eq_false_iff.mpr fun hlabel => hnone (List.any_eq_true.mpr ⟨c, hc, hlabel⟩)⟩
    · exact .inl (List.mem_singleton.mp hc)

lemma mem_foldl_putEntry {es ds : List (Component × Value)} {c : Component × Value}
    (h : c ∈ es.foldl putEntry ds) : c ∈ ds ∨ c ∈ es := by
  induction es generalizing ds with
  | nil => exact .inl h
  | cons e es ih =>
    rcases ih h with hc | hc
    · rcases mem_putEntry hc with rfl | ⟨hc, -⟩
      · exact .inr List.mem_cons_self
      · exact .inl hc
    · exact .inr (List.mem_cons_of_mem e hc)

lemma mem_installed {es : List (Component × Value)} {e : Component × Value}
    (h : e ∈ installed es) : e ∈ es :=
  (mem_foldl_putEntry h).resolve_left List.not_mem_nil

lemma map_putEntry (es : List (Component × Value)) (e : Component × Value) :
    (putEntry es e).map (·.1) = putComponent (es.map (·.1)) e.1 := by
  rw [putEntry, putComponent, List.any_map]
  simp only [Function.comp_def]
  split
  · rw [List.map_map, List.map_map]
    refine List.map_congr_left fun d _ => ?_
    simp only [Function.comp_apply]
    split <;> rfl
  · rw [List.map_append, List.map_singleton]

lemma map_foldl_putEntry (es ds : List (Component × Value)) : (es.foldl putEntry ds).map (·.1) =
    es.foldl (fun cs e => putComponent cs e.1) (ds.map (·.1)) := by
  induction es generalizing ds with
  | nil => rfl
  | cons e es ih => rw [List.foldl_cons, ih, map_putEntry, List.foldl_cons]

variable {f g h : Forest} {s : SceneId} {sc : Option SceneId} {j k p : Nat} {t : NodeSpec}
  {ts : List NodeSpec} {ns ms : List Node} {old : Key → Node}

/-! ### Single steps -/

lemma node_addComponents (cs : List (Component × Value)) (hk : f.IsNode k) (j : Key) :
    (cs.foldl (fun f c => f.addComponent k c.1) f).node j =
      if j = k then { f.node k with
        components := cs.foldl (fun ds c => putComponent ds c.1) (f.node k).components }
      else f.node j := by
  induction cs generalizing f with
  | nil =>
    rw [List.foldl_nil, List.foldl_nil]
    split
    · next hjk => rw [hjk]
    · rfl
  | cons c cs ih =>
    have hk' : (f.addComponent k c.1).IsNode k := (isNode_of_length (length_modify f k _)).mpr hk
    have hnode : ∀ i, (f.addComponent k c.1).node i = if i = k then
        { f.node k with components := putComponent (f.node k).components c.1 } else f.node i := by
      intro i
      rw [addComponent, node_modify]
      simp only [show (f.node? k).isSome = true from hk, and_true]
    rw [List.foldl_cons, ih hk', hnode, if_pos rfl, hnode]
    split <;> rfl

lemma frame_addComponents (cs : List (Component × Value)) (f : Forest) (k : Key) :
    (cs.foldl (fun f c => f.addComponent k c.1) f).nodes.length = f.nodes.length ∧
      (cs.foldl (fun f c => f.addComponent k c.1) f).scenes = f.scenes := by
  induction cs generalizing f with
  | nil => exact ⟨rfl, rfl⟩
  | cons c cs ih =>
    rw [List.foldl_cons, (ih _).1, (ih _).2]
    exact ⟨length_modify f k _, scenes_modify f k _⟩

lemma node_foldl_scene (ds : List Key) (f : Forest) (hds : ∀ d ∈ ds, f.IsNode d) (j : Key) :
    (ds.foldl (fun f d => f.modify d fun n => { n with scene := sc }) f).node j =
      if j ∈ ds then { f.node j with scene := sc } else f.node j := by
  induction ds generalizing f with
  | nil => rfl
  | cons d ds ih =>
    have hd : (f.node? d).isSome = true := hds d List.mem_cons_self
    have hrest : ∀ e ∈ ds, (f.modify d fun n => { n with scene := sc }).IsNode e := fun e he =>
      (isNode_of_length (length_modify f d _)).mpr (hds e (List.mem_cons_of_mem d he))
    have hnode : (f.modify d fun n => { n with scene := sc }).node j =
        if j = d then { f.node j with scene := sc } else f.node j := by
      rw [node_modify]
      grind
    rw [List.foldl_cons, ih _ hrest, hnode]
    grind

lemma subtree_of_shows {q : Option Key} (hk : 1 ≤ k) (hshows : f.Shows k (t.shapes sc q k)) :
    f.subtree k = List.range' k t.size := by
  have hpos := t.size_pos
  have hlast := isNode_iff.mp (hshows.isNode (j := k + t.size - 1) (by omega)
    (by rw [length_shapes]; omega))
  exact subtreeTo_of_shows hshows (by omega)

section Subtree

variable {q : Option Key} (hk : 1 ≤ k) (hshows : f.Shows k (t.shapes sc q k))
include hk hshows

lemma mem_subtree_of_shows : j ∈ f.subtree k ↔ k ≤ j ∧ j < k + t.size := by
  rw [subtree_of_shows hk hshows, List.mem_range'_1]

lemma stands_of_mem_subtree (hj : j ∈ f.subtree k) : f.IsNode j ∧ (f.node j).scene = sc := by
  obtain ⟨hkj, hlast⟩ := (mem_subtree_of_shows hk hshows).mp hj
  exact ⟨hshows.isNode hkj (by rw [length_shapes]; exact hlast),
    (stands_of_shows hshows hkj hlast).scene⟩

end Subtree

/-- A tree that gets another parent keeps its layout below the root. -/
lemma Shows.reparent {q r : Option Key} (hshows : f.Shows k (t.shapes sc q k))
    (hroot : g.IsNode k ∧ (g.node k).shape = { (f.node k).shape with parent := r })
    (hnode : ∀ j, k < j → j < k + t.size → f.IsNode j →
      g.IsNode j ∧ (g.node j).shape = (f.node j).shape) : g.Shows k (t.shapes sc r k) := by
  cases t with
  | mk name active entries children =>
    rw [shapes] at hshows ⊢
    rw [size] at hnode
    refine ⟨hroot.1, by rw [hroot.2, hshows.2.1], hshows.2.2.congr fun j hj hjk => ?_⟩
    rw [length_shapesAll] at hjk
    exact hnode j hj (by omega)

/-- Hanging a complete tree of no scene below an earlier node of no scene. -/
lemma setParent_of_shows (hp : f.IsNode p) (hpk : p < k) (hshows : f.Shows k (t.shapes none none k))
    (hscene : (f.node p).scene = none) :
    (f.setParent k (some p)).scenes = f.scenes ∧
      (f.setParent k (some p)).nodes.length = f.nodes.length ∧
      ∀ j, (f.setParent k (some p)).node j = if j = k then { f.node k with parent := some p }
        else if j = p then { f.node p with children := (f.node p).children ++ [k] }
        else f.node j := by
  have hpos := t.size_pos
  have hk : f.IsNode k := hshows.isNode (Nat.le_refl k) (by rw [length_shapes]; omega)
  obtain ⟨g, hg⟩ : ∃ g : Forest, g = (f.modify k fun n => { n with parent := some p }).modify p
      fun n => { n with children := n.children ++ [k] } := ⟨_, rfl⟩
  have hlength : g.nodes.length = f.nodes.length := by rw [hg, length_modify, length_modify]
  have hnode : ∀ j, g.node j = if j = k then { f.node k with parent := some p }
      else if j = p then { f.node p with children := (f.node p).children ++ [k] }
      else f.node j := by
    intro j
    have hp' : ((f.modify k fun n => { n with parent := some p }).node? p).isSome = true :=
      (isNode_of_length (length_modify f k _)).mpr hp
    have hk' : (f.node? k).isSome = true := hk
    rw [hg, node_modify, node_modify, node_modify]
    grind
  have hgshows : g.Shows k (t.shapes none (some p) k) := by
    refine hshows.reparent ⟨(isNode_of_length hlength).mpr hk, ?_⟩ fun j hj _ hnodej =>
      ⟨(isNode_of_length hlength).mpr hnodej, ?_⟩
    · rw [hnode, if_pos rfl]
      rfl
    · rw [hnode, if_neg (Nat.ne_of_gt hj), if_neg (Nat.ne_of_gt (Nat.lt_trans hpk hj))]
  have hsubtree : ∀ d ∈ g.subtree k, g.IsNode d ∧ (g.node d).scene = none :=
    fun d hd => stands_of_mem_subtree (by omega) hgshows hd
  have hassign : ∀ j, (g.assignScene k none).node j = g.node j := by
    intro j
    rw [assignScene, node_foldl_scene _ g fun d hd => (hsubtree d hd).1]
    split
    · next hj => rw [← (hsubtree j hj).2]
    · rfl
  have hset : f.setParent k (some p) = (g.assignScene k none).announce k := by
    have hparent := parent_of_shows hshows
    have hkscene := (stands_of_shows hshows (Nat.le_refl k) (by omega)).scene
    have hgp : (g.node p).scene = none := by
      rw [hnode, if_neg (Nat.ne_of_lt hpk), if_pos rfl]
      exact hscene
    rw [setParent, if_neg (by rw [hparent]; exact Option.some_ne_none p ∘ Eq.symm), unlink, hparent,
      hkscene]
    dsimp only
    rw [← hg, hgp]
  rw [hset]
  refine ⟨?_, ?_, fun j => ?_⟩
  · rw [scenes_announce, assignScene, scenes_foldl_modify, hg, scenes_modify, scenes_modify]
  · rw [nodes_announce, length_assignScene, hlength]
  · rw [node_announce, hassign, hnode]

/-! ### Trees -/

/-- The second forest has the nodes of the first, each as `old` says, and behind them new ones with
given shapes and names. -/
structure Adds (f g : Forest) (old : Key → Node) (ns : List Node) (names : List String) : Prop where
  length : g.nodes.length = f.nodes.length + ns.length
  old : ∀ j : Nat, j ≤ f.nodes.length → g.node j = old j
  shows : g.Shows (f.nodes.length + 1) ns
  names : (List.range' (f.nodes.length + 1) ns.length).map (fun j => (g.node j).name) = names

variable {old' : Key → Node} {ns' : List Node} {xs ys : List String}

lemma Adds.nil (f : Forest) (hold : ∀ j : Nat, j ≤ f.nodes.length → f.node j = old j) :
    Adds f f old [] [] where
  length := rfl
  old := hold
  shows := trivial
  names := rfl

lemma Adds.append (hfg : Adds f g old ns xs) (hgh : Adds g h old' ns' ys)
    (hnew : ∀ j : Nat, f.nodes.length < j → j ≤ g.nodes.length → old' j = g.node j) :
    Adds f h old' (ns ++ ns') (xs ++ ys) := by
  have hkept : ∀ j : Nat, f.nodes.length < j → j ≤ g.nodes.length → h.node j = g.node j :=
    fun j hj hjg => (hgh.old j hjg).trans (hnew j hj hjg)
  have hlength := hfg.length
  refine ⟨?_, fun j hj => hgh.old j (by omega), ?_, ?_⟩
  · rw [hgh.length, hlength, List.length_append, Nat.add_assoc]
  · rw [shows_append]
    refine ⟨hfg.shows.congr fun j hj hjk hnode => ?_, ?_⟩
    · have hle : j ≤ g.nodes.length := by omega
      rw [hkept j hj hle]
      rw [isNode_iff, hgh.length]
      exact ⟨⟨by omega, by omega⟩, rfl⟩
    · rw [show f.nodes.length + 1 + ns.length = g.nodes.length + 1 by omega]
      exact hgh.shows
  · rw [List.length_append, ← List.range'_append_1, List.map_append,
      show f.nodes.length + 1 + ns.length = g.nodes.length + 1 by omega, hgh.names, ← hfg.names]
    refine congrArg (· ++ ys) (List.map_congr_left fun j hj => ?_)
    rw [List.mem_range'_1] at hj
    rw [hkept j (by omega) (by omega)]

lemma Adds.congr_old (hfg : Adds f g old ns xs)
    (hold : ∀ j : Nat, j ≤ f.nodes.length → old j = old' j) : Adds f g old' ns xs :=
  { hfg with old := fun j hj => (hfg.old j hj).trans (hold j hj) }

/-- A new tree is hung below an old node. -/
lemma Adds.setParent (hfg : Adds f g f.node (t.shapes none none (f.nodes.length + 1)) xs)
    (hp : f.IsNode p) (hscene : (f.node p).scene = none) :
    (g.setParent (f.nodes.length + 1) (some p)).scenes = g.scenes ∧
      Adds f (g.setParent (f.nodes.length + 1) (some p))
        (fun j => if j = p then
          { f.node p with children := (f.node p).children ++ [f.nodes.length + 1] } else f.node j)
        (t.shapes none (some p) (f.nodes.length + 1)) xs := by
  have hple := (isNode_iff.mp hp).2
  have hlength := hfg.length
  have hgp : g.IsNode p := isNode_iff.mpr ⟨(isNode_iff.mp hp).1, by omega⟩
  have hold := hfg.old p hple
  obtain ⟨hscenes, hlen, hnode⟩ := setParent_of_shows hgp (by omega) hfg.shows
    (hold ▸ hscene)
  rw [hold] at hnode
  have hnew : ∀ j : Nat, f.nodes.length < j → (g.setParent (f.nodes.length + 1) (some p)).node j =
      if j = f.nodes.length + 1 then { g.node (f.nodes.length + 1) with parent := some p }
      else g.node j := by
    intro j hj
    rw [hnode, if_neg (c := j = p) (by omega)]
  refine ⟨hscenes, ?_, fun j hj => ?_, ?_, ?_⟩
  · rw [hlen, hlength, length_shapes, length_shapes]
  · rw [hnode, if_neg (Nat.ne_of_lt (Nat.lt_succ_of_le hj)), hfg.old j hj]
  · refine hfg.shows.reparent ⟨?_, ?_⟩ fun j hj _ hj' => ⟨(isNode_of_length hlen).mpr hj', ?_⟩
    · have hpos := t.size_pos
      rw [length_shapes] at hlength
      rw [isNode_iff, hlen]
      omega
    · rw [hnew _ (Nat.lt_succ_self _), if_pos rfl]
      rfl
    · rw [hnew j (by omega), if_neg (by omega)]
  · rw [← hfg.names, length_shapes, length_shapes]
    refine List.map_congr_left fun j hj => ?_
    rw [List.mem_range'_1] at hj
    rw [hnew j (by omega)]
    split
    · next hjk => rw [hjk]
    · rfl

/-- The forest with the node that a described tree begins with: it has its components, but no
relations yet. -/
def begin (f : Forest) (name : String) (active : Bool) (cs : List (Component × Value)) : Forest :=
  cs.foldl (fun g c => g.addComponent (f.nodes.length + 1) c.1)
    (f.create (Node.new name [] active)).1

lemma build_eq (b : Built) {name : String} {active : Bool} {entries : List Value}
    {cs : List (Component × Value)} (hcs : describedComponents entries = .ok cs)
    (children : List NodeSpec) : build b ⟨name, active, entries, children⟩ =
      let b' := buildAll ⟨b.forest.begin name active cs,
        b.pending ++ pendingOf (b.forest.nodes.length + 1) cs⟩ (b.forest.nodes.length + 1) children
      (b'.1, b'.2.map fun _ => b.forest.nodes.length + 1) := by
  rw [build, hcs]
  rfl

section Begin

variable (name : String) (active : Bool) (cs : List (Component × Value))

lemma scenes_begin : (f.begin name active cs).scenes = f.scenes :=
  (frame_addComponents cs _ _).2

lemma length_begin : (f.begin name active cs).nodes.length = f.nodes.length + 1 := by
  rw [begin, (frame_addComponents cs _ _).1, create, List.length_append]
  rfl

lemma node_begin (j : Nat) : (f.begin name active cs).node j = if j = f.nodes.length + 1 then
    { Node.new name [] active with components := (installed cs).map (·.1) } else f.node j := by
  have hcreate : ∀ i : Nat, (f.create (Node.new name [] active)).1.node i =
      if i = f.nodes.length + 1 then Node.new name [] active else f.node i := fun _ => node_create
  have hnode : (f.create (Node.new name [] active)).1.IsNode (f.nodes.length + 1) := by
    rw [isNode_iff, create, List.length_append]
    exact ⟨Nat.succ_le_succ (Nat.zero_le _), Nat.le_refl _⟩
  rw [begin, node_addComponents cs hnode, hcreate, hcreate, if_pos rfl, installed,
    map_foldl_putEntry]
  split <;> rfl

end Begin

/-- A tree is complete once its children have been hung below its root. -/
lemma Adds.root {name : String} {active : Bool} {entries : List Value}
    {cs : List (Component × Value)} (hcs : describedComponents entries = .ok cs)
    (hgh : Adds (f.begin name active cs) h (fun j => if j = f.nodes.length + 1 then
        { (f.begin name active cs).node (f.nodes.length + 1) with
          children := ((f.begin name active cs).node (f.nodes.length + 1)).children ++
            keysFrom ((f.begin name active cs).nodes.length + 1) ts }
        else (f.begin name active cs).node j)
      (shapesAll none (some (f.nodes.length + 1)) ((f.begin name active cs).nodes.length + 1) ts)
      (namesAll ts)) :
    Adds f h f.node (shapes none none (f.nodes.length + 1) ⟨name, active, entries, ts⟩)
      (NodeSpec.names ⟨name, active, entries, ts⟩) := by
  have hold := hgh.old
  obtain ⟨hlen, -, hshows, hnames⟩ := hgh
  simp only [node_begin, length_begin, if_true] at hlen hold hshows hnames
  have hroot : h.node (f.nodes.length + 1) = { Node.new name [] active with
      components := (installed cs).map (·.1)
      children := keysFrom (f.nodes.length + 1 + 1) ts } := by
    rw [hold _ (Nat.le_refl _), if_pos rfl]
    rfl
  refine ⟨?_, fun j hj => ?_, ⟨?_, ?_, hshows⟩, ?_⟩
  · rw [hlen, shapes, List.length_cons]
    omega
  · have hne : j ≠ f.nodes.length + 1 := Nat.ne_of_lt (Nat.lt_succ_of_le hj)
    rw [hold j (by omega), if_neg hne, if_neg hne]
  · rw [isNode_iff, hlen]
    omega
  · rw [hroot, Node.shape, bares, described, hcs]
    rfl
  · rw [shapes, List.length_cons, List.range'_succ, List.map_cons, hnames, hroot]
    rfl

mutual

theorem adds_build {b b' : Built} {t : NodeSpec} {k : Key} (hbuild : build b t = (b', .ok k)) :
    k = b.forest.nodes.length + 1 ∧ b'.forest.scenes = b.forest.scenes ∧
      Adds b.forest b'.forest b.forest.node (t.shapes none none (b.forest.nodes.length + 1))
        t.names := by
  cases t with
  | mk name active entries children =>
    cases hcs : describedComponents entries with
    | error e =>
      rw [build, hcs] at hbuild
      cases hbuild
    | ok cs =>
      rw [build_eq b hcs] at hbuild
      rcases hall : buildAll ⟨b.forest.begin name active cs,
        b.pending ++ pendingOf (b.forest.nodes.length + 1) cs⟩ (b.forest.nodes.length + 1)
        children with ⟨b₁, _ | _⟩
      · rw [hall] at hbuild
        cases hbuild
      · rw [hall] at hbuild
        cases hbuild
        obtain ⟨hscenes, hadds⟩ := adds_buildAll hall
          (isNode_iff.mpr ⟨Nat.succ_le_succ (Nat.zero_le _), by rw [length_begin]⟩)
          (by rw [node_begin, if_pos rfl]; rfl)
        exact ⟨rfl, hscenes.trans (scenes_begin name active cs), .root hcs hadds⟩

theorem adds_buildAll {b b' : Built} {p : Nat} {ts : List NodeSpec}
    (hbuild : buildAll b p ts = (b', .ok ())) (hp : b.forest.IsNode p)
    (hscene : (b.forest.node p).scene = none) :
    b'.forest.scenes = b.forest.scenes ∧
      Adds b.forest b'.forest
        (fun j => if j = p then { b.forest.node p with
          children := (b.forest.node p).children ++ keysFrom (b.forest.nodes.length + 1) ts }
          else b.forest.node j)
        (shapesAll none (some p) (b.forest.nodes.length + 1) ts) (namesAll ts) := by
  cases ts with
  | nil =>
    cases hbuild
    refine ⟨rfl, .nil _ fun j _ => ?_⟩
    rw [keysFrom, List.append_nil]
    split
    · next hjp => rw [hjp]
    · rfl
  | cons t ts =>
    rw [buildAll] at hbuild
    split at hbuild
    · cases hbuild
    · next b₁ k hfirst =>
      obtain ⟨rfl, hscenes₁, hadds₁⟩ := adds_build hfirst
      obtain ⟨hscenes₂, hadds₂⟩ := hadds₁.setParent hp hscene
      obtain ⟨f₂, hf₂⟩ : ∃ f₂, f₂ = b₁.forest.setParent (b.forest.nodes.length + 1) (some p) :=
        ⟨_, rfl⟩
      rw [← hf₂] at hbuild hscenes₂ hadds₂
      have hpold := hadds₂.old p (isNode_iff.mp hp).2
      rw [if_pos rfl] at hpold
      have hlength := hadds₂.length
      rw [length_shapes] at hlength
      have hp₂ : f₂.IsNode p := by
        have := isNode_iff.mp hp
        rw [isNode_iff]
        omega
      obtain ⟨hscenes₃, hadds₃⟩ := adds_buildAll hbuild hp₂ (by rw [hpold]; exact hscene)
      refine ⟨hscenes₃.trans (hscenes₂.trans hscenes₁), ?_⟩
      have hkey : f₂.nodes.length + 1 = b.forest.nodes.length + 1 + t.size := by omega
      have happend := hadds₂.append hadds₃ fun j hj _ =>
        if_neg (Nat.ne_of_gt (Nat.lt_of_le_of_lt (isNode_iff.mp hp).2 hj))
      rw [shapesAll, namesAll, ← hkey]
      refine happend.congr_old fun j hj => ?_
      dsimp only
      split
      · next hjp =>
        rw [hpold, hkey, keysFrom]
        simp only [List.append_assoc, List.singleton_append]
      · next hjp => rw [hadds₂.old j hj, if_neg hjp]

end

/-! ### Scenes -/

section Roots

variable (hroot : (f.node k).parent = none)
include hroot

lemma length_addRoot : (f.addRoot s k).nodes.length = f.nodes.length := by
  rw [addRoot, setParent, if_pos hroot]
  exact length_assignScene f k (some s)

/-- The nodes of a complete tree get the scene that the tree becomes a root of. -/
lemma node_addRoot_of_shows {q : Option Key} (hk : 1 ≤ k) (hshows : f.Shows k (t.shapes sc q k))
    (j : Nat) : (f.addRoot s k).node j =
      if k ≤ j ∧ j < k + t.size then { f.node j with scene := some s } else f.node j := by
  have hnode : (f.addRoot s k).node j =
      if j ∈ f.subtree k then { f.node j with scene := some s } else f.node j := by
    rw [addRoot, setParent, if_pos hroot]
    exact node_foldl_scene _ f (fun d hd => (stands_of_mem_subtree hk hshows hd).1) j
  rw [hnode]
  exact if_congr (mem_subtree_of_shows hk hshows) rfl rfl

lemma scenes_addRoot (hs : s < f.scenes.length) (hfresh : k ∉ f.roots s) :
    (f.addRoot s k).scenes = f.scenes.modify s fun sc => { sc with roots := sc.roots ++ [k] } := by
  have hassigned : (f.assignScene k (some s)).scenes = f.scenes := by
    rw [assignScene, scenes_foldl_modify]
  have hroots : f.roots s = f.scenes[s].roots := by
    rw [roots, scene, scene?, List.getElem?_eq_getElem hs, Option.getD_some]
  rw [hroots] at hfresh
  rw [addRoot, setParent, if_pos hroot, modifyScene, hassigned]
  refine List.ext_getElem? fun i => ?_
  rw [List.getElem?_modify, List.getElem?_modify]
  split
  · next hsi =>
    subst hsi
    rw [List.getElem?_eq_getElem hs]
    simp [hfresh]
  · rfl

end Roots

/-- A new tree becomes the last root of a scene. -/
lemma Adds.addRoot (hfg : Adds f g f.node (t.shapes none none (f.nodes.length + 1)) xs)
    (hscenes : g.scenes = f.scenes) (hs : s < f.scenes.length)
    (hroots : ∀ r ∈ f.roots s, r ≤ f.nodes.length) :
    Adds f (g.addRoot s (f.nodes.length + 1)) f.node
        (t.shapes (some s) none (f.nodes.length + 1)) xs ∧
      (g.addRoot s (f.nodes.length + 1)).scenes =
        f.scenes.modify s fun sc => { sc with roots := sc.roots ++ [f.nodes.length + 1] } := by
  have hparent : (g.node (f.nodes.length + 1)).parent = none := parent_of_shows hfg.shows
  have hlength : (g.addRoot s (f.nodes.length + 1)).nodes.length = g.nodes.length :=
    length_addRoot hparent
  have hnode : ∀ j : Nat, (g.addRoot s (f.nodes.length + 1)).node j =
      if f.nodes.length + 1 ≤ j ∧ j < f.nodes.length + 1 + t.size then
        { g.node j with scene := some s } else g.node j :=
    node_addRoot_of_shows hparent (Nat.le_add_left 1 _) hfg.shows
  have hkept : ∀ j : Nat,
      ((g.addRoot s (f.nodes.length + 1)).node j).name = (g.node j).name := by
    intro j
    rw [hnode]
    split <;> rfl
  refine ⟨⟨?_, fun j hj => ?_, ?_, ?_⟩, ?_⟩
  · rw [hlength, hfg.length, length_shapes, length_shapes]
  · rw [hnode, if_neg (by omega), hfg.old j hj]
  · rw [← map_shapes none (some s) none (f.nodes.length + 1) t]
    refine hfg.shows.map fun j hj hjk hj' => ⟨(isNode_of_length hlength).mpr hj', ?_⟩
    rw [length_shapes] at hjk
    rw [hnode, if_pos ⟨hj, hjk⟩]
    rfl
  · rw [← hfg.names, length_shapes, length_shapes]
    exact List.map_congr_left fun j _ => hkept j
  · have hfresh : f.nodes.length + 1 ∉ g.roots s := by
      rw [roots, scene, scene?, hscenes]
      exact fun hmem => Nat.not_succ_le_self _ (hroots _ hmem)
    rw [scenes_addRoot hparent (hscenes ▸ hs) hfresh, hscenes]

theorem adds_buildRoots {b b' : Built} {ts : List NodeSpec}
    (hbuild : buildRoots b s ts = (b', .ok ())) (hs : s < b.forest.scenes.length)
    (hroots : ∀ r ∈ b.forest.roots s, r ≤ b.forest.nodes.length) :
    Adds b.forest b'.forest b.forest.node
        (shapesAll (some s) none (b.forest.nodes.length + 1) ts) (namesAll ts) ∧
      b'.forest.scenes = b.forest.scenes.modify s fun sc =>
        { sc with roots := sc.roots ++ keysFrom (b.forest.nodes.length + 1) ts } := by
  induction ts generalizing b with
  | nil =>
    cases hbuild
    refine ⟨.nil _ fun _ _ => rfl, ?_⟩
    simp only [keysFrom, List.append_nil]
    exact (List.modify_id s _).symm
  | cons t ts ih =>
    rw [buildRoots] at hbuild
    rcases hfirst : build b t with ⟨b₁, e | k⟩
    · rw [hfirst] at hbuild
      grind
    · rw [hfirst] at hbuild
      replace hbuild : buildRoots { b₁ with forest := b₁.forest.addRoot s k } s ts = (b', .ok ()) :=
        hbuild
      obtain ⟨rfl, hscenes₁, hadds₁⟩ := adds_build hfirst
      obtain ⟨hadds₂, hscenes₂⟩ := hadds₁.addRoot hscenes₁ hs hroots
      obtain ⟨f₂, hf₂⟩ : ∃ f₂, f₂ = b₁.forest.addRoot s (b.forest.nodes.length + 1) := ⟨_, rfl⟩
      rw [← hf₂] at hbuild hadds₂ hscenes₂
      have hlength := hadds₂.length
      rw [length_shapes] at hlength
      have hkey : f₂.nodes.length + 1 = b.forest.nodes.length + 1 + t.size := by omega
      have hroots₂ : ∀ r ∈ f₂.roots s, r ≤ f₂.nodes.length := by
        intro r hr
        have hlist : f₂.roots s = b.forest.roots s ++ [b.forest.nodes.length + 1] := by
          simp [roots, scene, scene?, hscenes₂, List.getElem?_eq_getElem hs]
        rw [hlist, List.mem_append, List.mem_singleton] at hr
        have hpos := t.size_pos
        rcases hr with hr | rfl
        · exact Nat.le_trans (hroots r hr) (by omega)
        · exact Nat.le_of_lt_succ (by omega)
      obtain ⟨hadds₃, hscenes₃⟩ := ih hbuild (by rw [hscenes₂, List.length_modify]; exact hs) hroots₂
      refine ⟨?_, ?_⟩
      · rw [shapesAll, namesAll, ← hkey]
        exact (hadds₂.append hadds₃ fun _ _ _ => rfl).congr_old hadds₂.old
      · rw [hscenes₃, hscenes₂, List.modify_modify_eq, hkey]
        simp only [keysFrom, Function.comp_def, List.append_assoc, List.singleton_append]

end Forest

end SceneBindings
