import SceneBindings.Proofs.Forest.Descent

/-!
What keeps a forest well formed. Edits take a node away from where it hangs and hang it elsewhere,
with all below it; as long as nothing is hung below itself, parents and children go on agreeing, and
each tree belongs to one scene as a whole.
-/

namespace SceneBindings.Forest

/-- A scene has each of its roots once, and a tree belongs to one scene as a whole. -/
structure Housed (f : Forest) (s : SceneId) : Prop extends WellFormed f where
  known : s < f.scenes.length
  nodupRoots : (f.roots s).Nodup
  parentless : ∀ r ∈ f.roots s, (f.node r).parent = none
  housed : ∀ r ∈ f.roots s, (f.node r).scene = some s
  together : ∀ p c, f.IsChild p c → (f.node c).scene = (f.node p).scene

/-- An edit of existing nodes that hangs none of them below itself and concerns no other scene. -/
def Allows (f : Forest) (s : SceneId) : Edit → Prop
  | .addScene _ => True
  | .create _ _ _ => True
  | .setParent k none => f.IsNode k
  | .setParent k (some p) => f.IsNode k ∧ f.IsNode p ∧ ¬ f.Within k p
  | .addRoot t k => t = s ∧ f.IsNode k
  | .rename k _ => f.IsNode k
  | .destroy k => f.IsNode k

variable {f g : Forest} {s : SceneId} {a d j k p : Key}

/-! ### Single nodes -/

/-- What an update of nodes keeps of each node, it keeps of all of them. -/
lemma node_modify_keeps {α : Type} (φ : Node → α) (f : Forest) (k j : Key) {u : Node → Node}
    (hu : ∀ n, φ (u n) = φ n := by exact fun _ => rfl) :
    φ ((f.modify k u).node j) = φ (f.node j) := by
  rw [node_modify]
  split
  · next h => rw [hu, h.1]
  · rfl

lemma node_foldl_modify_keeps {α : Type} (φ : Node → α) (f : Forest) (ks : List Key) (j : Key)
    {u : Node → Node} (hu : ∀ n, φ (u n) = φ n := by exact fun _ => rfl) :
    φ ((ks.foldl (fun f k => f.modify k u) f).node j) = φ (f.node j) := by
  induction ks generalizing f with
  | nil => rfl
  | cons k ks ih => rw [List.foldl_cons, ih, node_modify_keeps φ f k j hu]

lemma length_modify (f : Forest) (k : Key) (u : Node → Node) :
    (f.modify k u).nodes.length = f.nodes.length := by
  cases k <;> simp [modify]

lemma length_foldl_modify (f : Forest) (ks : List Key) (u : Node → Node) :
    (ks.foldl (fun f k => f.modify k u) f).nodes.length = f.nodes.length := by
  induction ks generalizing f with
  | nil => rfl
  | cons k ks ih => rw [List.foldl_cons, ih, length_modify]

lemma isNode_of_length (h : g.nodes.length = f.nodes.length) : g.IsNode k ↔ f.IsNode k := by
  rw [isNode_iff, isNode_iff, h]

/-- Updates that give one value to a list of nodes, and to no others. -/
lemma node_foldl_modify_sets {α : Type} (φ : Node → α) (x : α) {u : Node → Node}
    (hu : ∀ n, φ (u n) = x) (j : Key) (ds : List Key) (f : Forest) (hds : ∀ d ∈ ds, f.IsNode d) :
    φ ((ds.foldl (fun f d => f.modify d u) f).node j) = if j ∈ ds then x else φ (f.node j) := by
  induction ds generalizing f with
  | nil => rfl
  | cons d ds ih =>
    rw [List.forall_mem_cons] at hds
    rw [List.foldl_cons, ih _ fun e he => (isNode_of_length (length_modify f d u)).mpr (hds.2 e he)]
    by_cases hj : j ∈ ds
    · rw [if_pos hj, if_pos (List.mem_cons_of_mem d hj)]
    · rw [if_neg hj, node_modify]
      by_cases hjd : j = d
      · rw [if_pos ⟨hjd, hds.1⟩, if_pos (by rw [hjd]; exact List.mem_cons_self), hu]
      · rw [if_neg (fun h => hjd h.1), if_neg (by simp [hjd, hj])]

lemma scenes_modify (f : Forest) (k : Key) (u : Node → Node) :
    (f.modify k u).scenes = f.scenes := by
  cases k <;> rfl

lemma scenes_foldl_modify (f : Forest) (ks : List Key) (u : Node → Node) :
    (ks.foldl (fun f k => f.modify k u) f).scenes = f.scenes := by
  induction ks generalizing f with
  | nil => rfl
  | cons k ks ih => rw [List.foldl_cons, ih, scenes_modify]

lemma roots_of_scenes (h : g.scenes = f.scenes) (s : SceneId) : g.roots s = f.roots s := by
  simp only [roots, scene, scene?, h]

lemma roots_modifyScene {u : Scene → Scene} {v : List Key → List Key}
    (hu : ∀ sc, (u sc).roots = v sc.roots) (f : Forest) {t : SceneId}
    (hv : v [] = [] ∨ t < f.scenes.length) (s : SceneId) :
    (f.modifyScene t u).roots s = if s = t then v (f.roots s) else f.roots s := by
  simp only [roots, scene, scene?, modifyScene, List.getElem?_modify]
  by_cases hts : t = s
  · subst hts
    cases ht : f.scenes[t]? with
    | none =>
      have hlen : ¬ t < f.scenes.length := by simpa using ht
      simpa using (hv.resolve_right hlen).symm
    | some sc => simp [hu]
  · have hst : ¬ s = t := fun h => hts h.symm
    cases f.scenes[s]? <;> simp [hts, hst]

lemma node_announce (f : Forest) (k j : Key) : (f.announce k).node j = f.node j := by
  rw [announce]
  split <;> rfl

lemma scenes_announce (f : Forest) (k : Key) : (f.announce k).scenes = f.scenes := by
  rw [announce]
  split <;> rfl

lemma nodes_announce (f : Forest) (k : Key) : (f.announce k).nodes = f.nodes := by
  rw [announce]
  split <;> rfl

/-- The bounded walk looks at nothing but children. -/
lemma subtreeTo_of_children (h : ∀ j, (g.node j).children = (f.node j).children) (n : Nat)
    (k : Key) : g.subtreeTo n k = f.subtreeTo n k := by
  induction n generalizing k with
  | zero => rfl
  | succ n ih => rw [subtreeTo, subtreeTo, h, funext ih]

/-- What stands below a node does not depend on where the node hangs. -/
lemma within_iff_of_parents (h : ∀ j, j ≠ k → (g.node j).parent = (f.node j).parent) :
    g.Within k d ↔ f.Within k d := by
  have hstep : ∀ b c, c ≠ k → (g.IsChild b c ↔ f.IsChild b c) := by
    intro b c hck
    rw [IsChild, IsChild, h c hck]
  constructor
  · intro hd
    induction hd with
    | refl => exact .refl
    | @tail b c _ hc ih =>
      by_cases hck : c = k
      · rw [hck]
      · exact ih.tail ((hstep b c hck).mp hc)
  · intro hd
    induction hd with
    | refl => exact .refl
    | @tail b c _ hc ih =>
      by_cases hck : c = k
      · rw [hck]
      · exact ih.tail ((hstep b c hck).mpr hc)

lemma WellFormed.congr (hf : f.WellFormed) (hparent : ∀ j, (g.node j).parent = (f.node j).parent)
    (hchildren : ∀ j, (g.node j).children = (f.node j).children)
    (hroots : ∀ t, ∀ r ∈ g.roots t, g.IsNode r) : g.WellFormed := by
  have hchild : g.IsChild = f.IsChild := by
    funext p c
    rw [IsChild, IsChild, hparent]
  refine ⟨fun p c => ?_, fun p => ?_, ?_, hroots⟩
  · rw [hchildren, hchild]
    exact hf.children p c
  · rw [hchildren]
    exact hf.nodup p
  · rw [hchild]
    exact hf.ends

/-! ### Taking a node away and hanging it elsewhere -/

/-- The second forest has a node hung below a parent, or below none, and is the first otherwise. A
root that is hung elsewhere is none any more. -/
structure Relinked (f g : Forest) (k : Key) (up : Option Key) : Prop where
  parent : ∀ j, (g.node j).parent = if j = k then up else (f.node j).parent
  children : ∀ j, (g.node j).children =
    (f.node j).children.erase k ++ if up = some j then [k] else []
  roots : ∀ t, g.roots t = if (f.node k).parent = none ∧ (f.node k).scene = some t then
    (f.roots t).erase k else f.roots t
  name : ∀ j, (g.node j).name = (f.node j).name
  length : g.nodes.length = f.nodes.length
  scenes : g.scenes.length = f.scenes.length

namespace Relinked

variable {up : Option Key}

lemma isChild_iff (h : Relinked f g k up) :
    g.IsChild p j ↔ if j = k then up = some p else f.IsChild p j := by
  rw [IsChild, h.parent]
  split <;> rfl

lemma isChild_iff_of_ne (h : Relinked f g k up) (hj : j ≠ k) : g.IsChild p j ↔ f.IsChild p j := by
  rw [h.isChild_iff, if_neg hj]

lemma isNode_iff (h : Relinked f g k up) : g.IsNode j ↔ f.IsNode j := by
  rw [Forest.isNode_iff, Forest.isNode_iff, h.length]

/-- What stands below the node goes with it. -/
lemma within_iff (h : Relinked f g k up) : g.Within k d ↔ f.Within k d :=
  within_iff_of_parents fun j hj => by rw [h.parent, if_neg hj]

/-- More work that leaves all links and names alone. -/
lemma trans_keeps {h' : Forest} (h : Relinked f g k up)
    (hnode : ∀ {α : Type} (φ : Node → α), (∀ n b sc, φ { n with destroyed := b, scene := sc } = φ n) →
      ∀ j, φ (h'.node j) = φ (g.node j))
    (hscenes : h'.scenes = g.scenes) (hlength : h'.nodes.length = g.nodes.length) :
    Relinked f h' k up where
  parent j := (hnode (·.parent) (fun _ _ _ => rfl) j).trans (h.parent j)
  children j := (hnode (·.children) (fun _ _ _ => rfl) j).trans (h.children j)
  roots t := (roots_of_scenes hscenes t).trans (h.roots t)
  name j := (hnode (·.name) (fun _ _ _ => rfl) j).trans (h.name j)
  length := hlength.trans h.length
  scenes := (congrArg List.length hscenes).trans h.scenes

lemma mem_roots (h : Relinked f g k up) {t : SceneId} (hr : a ∈ g.roots t) : a ∈ f.roots t := by
  rw [h.roots] at hr
  split at hr
  · exact List.mem_of_mem_erase hr
  · exact hr

/-- A chain of parents that meets the node goes on above its new parent, which is not below it. -/
lemma ends (h : Relinked f g k up) (hf : f.WellFormed) (hup : ∀ p, up = some p → ¬ f.Within k p) :
    WellFounded g.IsChild := by
  have houtside : ∀ j, ¬ f.Within k j → Acc g.IsChild j := by
    intro j
    induction j using hf.ends.induction with
    | _ j ih =>
      intro hj
      have hjk : j ≠ k := by
        rintro rfl
        exact hj .refl
      refine ⟨j, fun b hb => ?_⟩
      rw [h.isChild_iff_of_ne hjk] at hb
      exact ih b hb fun hkb => hj (hkb.tail hb)
  have hnode : Acc g.IsChild k := by
    refine ⟨k, fun b hb => ?_⟩
    rw [h.isChild_iff, if_pos rfl] at hb
    exact houtside b (hup b hb)
  refine ⟨fun j => ?_⟩
  induction j using hf.ends.induction with
  | _ j ih =>
    by_cases hjk : j = k
    · rw [hjk]
      exact hnode
    · exact ⟨j, fun b hb => ih b ((h.isChild_iff_of_ne hjk).mp hb)⟩

lemma wellFormed (h : Relinked f g k up) (hf : f.WellFormed)
    (hup : ∀ p, up = some p → ¬ f.Within k p) : g.WellFormed where
  children p c := by
    rw [h.children, h.isChild_iff, List.mem_append]
    by_cases hck : c = k
    · subst hck
      have hout : c ∉ (f.node p).children.erase c := (hf.nodup p).not_mem_erase
      by_cases hp : up = some p <;> simp [hout, hp]
    · rw [List.mem_erase_of_ne hck, hf.children, if_neg hck]
      split <;> simp [hck]
  nodup p := by
    have hout : k ∉ (f.node p).children.erase k := (hf.nodup p).not_mem_erase
    have hrest := (hf.nodup p).erase k
    rw [h.children]
    split
    · exact List.nodup_append.mpr ⟨hrest, List.nodup_singleton k, fun a ha b hb => by
        rw [List.mem_singleton.mp hb]
        rintro rfl
        exact hout ha⟩
    · rwa [List.append_nil]
  ends := h.ends hf hup
  roots t r hr := h.isNode_iff.mpr (hf.roots t r (h.mem_roots hr))

end Relinked

/-! ### What edits do -/

lemma children_unlink (hf : f.WellFormed) (k j : Key) :
    ((f.unlink k).node j).children = (f.node j).children.erase k := by
  have helse : ¬ f.IsChild j k → (f.node j).children = (f.node j).children.erase k :=
    fun hno => (List.erase_of_not_mem fun hk => hno ((hf.children j k).mp hk)).symm
  rw [unlink]
  split
  · next p hp =>
    rw [node_modify]
    split
    · next hj => rw [hj.1]
    · next hj =>
      refine helse fun hjk => hj ⟨?_, hf.isNode_parent hp⟩
      rw [IsChild, hp] at hjk
      cases hjk
      rfl
  · next hp _ =>
    refine helse fun hjk => ?_
    rw [IsChild, hp] at hjk
    cases hjk
  · next hp _ =>
    refine helse fun hjk => ?_
    rw [IsChild, hp] at hjk
    cases hjk

lemma node_unlink_keeps {α : Type} (φ : Node → α)
    (hφ : ∀ n cs, φ { n with children := cs } = φ n) (f : Forest) (k j : Key) :
    φ ((f.unlink k).node j) = φ (f.node j) := by
  rw [unlink]
  split
  · exact node_modify_keeps φ f _ j (fun n => hφ n _)
  · rfl
  · rfl

lemma roots_unlink (f : Forest) (k : Key) (t : SceneId) :
    (f.unlink k).roots t = if (f.node k).parent = none ∧ (f.node k).scene = some t then
      (f.roots t).erase k else f.roots t := by
  rw [unlink]
  split
  · next p hp => simp [hp, roots_of_scenes (scenes_modify f p _)]
  · next u hp hu =>
    rw [roots_modifyScene (v := (·.erase k)) (fun _ => rfl) f (.inl rfl)]
    simp [hp, hu, eq_comm]
  · next hp hu => simp [hp, hu]

lemma length_scenes_unlink (f : Forest) (k : Key) :
    (f.unlink k).scenes.length = f.scenes.length := by
  rw [unlink]
  split
  · rw [scenes_modify]
  · simp [modifyScene]
  · rfl

lemma length_unlink (f : Forest) (k : Key) : (f.unlink k).nodes.length = f.nodes.length := by
  rw [unlink]
  split
  · exact length_modify f _ _
  · rfl
  · rfl

/-- A node hung elsewhere, before its tree is taken over by a scene and before this is announced. -/
def hang (f : Forest) (k : Key) (up : Option Key) : Forest :=
  let f := (f.unlink k).modify k fun n => { n with parent := up }
  match up with
  | some p => f.modify p fun n => { n with children := n.children ++ [k] }
  | none => f

lemma setParent_eq_hang (f : Forest) (k : Key) (up : Option Key) :
    f.setParent k up = if (f.node k).parent = up then f else
      (match up with
        | some p => (f.hang k up).assignScene k ((f.hang k up).node p).scene
        | none => f.hang k up).announce k := by
  rw [setParent]
  cases up <;> rfl

/-- Hanging a node elsewhere changes nothing but parents and children. -/
lemma node_hang_keeps {α : Type} (φ : Node → α)
    (hφ : ∀ n up cs, φ { n with parent := up, children := cs } = φ n) (f : Forest) (k j : Key)
    (up : Option Key) : φ ((f.hang k up).node j) = φ (f.node j) := by
  have hunlink := node_unlink_keeps φ (fun n cs => hφ n n.parent cs) f k j
  have hmoved : φ (((f.unlink k).modify k fun n => { n with parent := up }).node j) =
      φ (f.node j) := by
    rw [node_modify_keeps φ _ k j fun n => hφ n up n.children, hunlink]
  cases up with
  | none => exact hmoved
  | some p => exact (node_modify_keeps φ _ p j fun n => hφ n n.parent _).trans hmoved

lemma node_setParent_keeps {α : Type} (φ : Node → α)
    (hφ : ∀ n up cs sc, φ { n with parent := up, children := cs, scene := sc } = φ n) (f : Forest)
    (k : Key) (up : Option Key) (j : Key) : φ ((f.setParent k up).node j) = φ (f.node j) := by
  have hhang := node_hang_keeps φ (fun n up cs => hφ n up cs n.scene) f k j up
  rw [setParent_eq_hang]
  split
  · rfl
  · rw [node_announce]
    cases up with
    | none => exact hhang
    | some p =>
      refine Eq.trans ?_ hhang
      exact node_foldl_modify_keeps φ _ _ j fun n => hφ n n.parent n.children _

lemma components_setParent (f : Forest) (k : Key) (up : Option Key) (j : Key) :
    ((f.setParent k up).node j).components = (f.node j).components :=
  node_setParent_keeps (·.components) (fun _ _ _ _ => rfl) f k up j

lemma relinked_hang (hf : f.WellFormed) (hk : f.IsNode k) {up : Option Key}
    (hup : ∀ p, up = some p → f.IsNode p) : Relinked f (f.hang k up) k up := by
  have hk' : (f.unlink k).IsNode k := (isNode_of_length (length_unlink f k)).mpr hk
  obtain ⟨u, hu⟩ : ∃ u : Forest, u = (f.unlink k).modify k fun n => { n with parent := up } :=
    ⟨_, rfl⟩
  have hlength : u.nodes.length = f.nodes.length := by
    rw [hu, length_modify, length_unlink]
  have hscenes : u.scenes.length = f.scenes.length := by
    rw [hu, scenes_modify, length_scenes_unlink]
  have hparent : ∀ j, (u.node j).parent = if j = k then up else (f.node j).parent := by
    intro j
    rw [hu, node_modify]
    by_cases hj : j = k
    · rw [if_pos ⟨hj, hk'⟩, if_pos hj]
    · rw [if_neg (fun h => hj h.1), if_neg hj, node_unlink_keeps (·.parent) (fun _ _ => rfl)]
  have hchildren : ∀ j, (u.node j).children = (f.node j).children.erase k := by
    intro j
    rw [hu]
    exact (node_modify_keeps (·.children) _ k j).trans (children_unlink hf k j)
  have hname : ∀ j, (u.node j).name = (f.node j).name := by
    intro j
    rw [hu]
    exact (node_modify_keeps (·.name) _ k j).trans
      (node_unlink_keeps (·.name) (fun _ _ => rfl) f k j)
  have hroots : ∀ t, u.roots t = if (f.node k).parent = none ∧ (f.node k).scene = some t then
      (f.roots t).erase k else f.roots t := by
    intro t
    rw [hu, roots_of_scenes (scenes_modify _ _ _), roots_unlink]
  cases up with
  | none =>
    have he : f.hang k none = u := hu.symm
    rw [he]
    exact ⟨hparent, fun j => by simpa using hchildren j, hroots, hname, hlength, hscenes⟩
  | some p =>
    have he : f.hang k (some p) = u.modify p fun n => { n with children := n.children ++ [k] } := by
      rw [hu]
      rfl
    have hp : u.IsNode p := (isNode_of_length hlength).mpr (hup p rfl)
    rw [he]
    refine ⟨fun j => ?_, fun j => ?_, fun t => ?_, fun j => ?_, ?_, ?_⟩
    · exact (node_modify_keeps (·.parent) u p j).trans (hparent j)
    · rw [node_modify, ← hchildren]
      by_cases hj : j = p
      · rw [if_pos ⟨hj, hp⟩, if_pos (by rw [hj]), hj]
      · rw [if_neg (fun h => hj h.1), if_neg (fun h => hj (Option.some.inj h).symm),
          List.append_nil]
    · rw [roots_of_scenes (scenes_modify _ _ _), hroots]
    · exact (node_modify_keeps (·.name) u p j).trans (hname j)
    · rw [length_modify, hlength]
    · rw [scenes_modify, hscenes]

/-- The scene of a tree goes to all its nodes. -/
lemma scene_assignScene_of_within (hf : f.WellFormed) (hk : f.IsNode k) (sc : Option SceneId)
    (h : f.Within k j) : ((f.assignScene k sc).node j).scene = sc := by
  rw [assignScene, node_foldl_modify_sets (·.scene) sc (fun _ => rfl) j _ f fun d hd =>
    ((hf.mem_subtree hk).mp hd).isNode hk, if_pos ((hf.mem_subtree hk).mpr h)]

lemma scene_assignScene_of_not_within (hf : f.WellFormed) (hk : f.IsNode k) (sc : Option SceneId)
    (h : ¬ f.Within k j) : ((f.assignScene k sc).node j).scene = (f.node j).scene := by
  rw [assignScene, node_foldl_modify_sets (·.scene) sc (fun _ => rfl) j _ f fun d hd =>
    ((hf.mem_subtree hk).mp hd).isNode hk, if_neg fun hj => h ((hf.mem_subtree hk).mp hj)]

lemma relinked_setParent (hf : f.WellFormed) (hk : f.IsNode k) {up : Option Key}
    (hup : ∀ p, up = some p → f.IsNode p) (hne : (f.node k).parent ≠ up) :
    Relinked f (f.setParent k up) k up := by
  have hhang := relinked_hang hf hk hup
  rw [setParent_eq_hang, if_neg hne]
  cases up with
  | none =>
    exact hhang.trans_keeps (fun φ _ j => congrArg φ (node_announce _ k j)) (scenes_announce _ k)
      (congrArg List.length (nodes_announce _ k))
  | some p =>
    refine hhang.trans_keeps (fun φ hφ j => ?_) ?_ ?_
    · refine (congrArg φ (node_announce _ k j)).trans ?_
      exact node_foldl_modify_keeps φ _ _ j (fun n => hφ n n.destroyed _)
    · exact (scenes_announce _ k).trans (scenes_foldl_modify _ _ _)
    · rw [nodes_announce]
      exact length_foldl_modify _ _ _

lemma relinked_setParent_none (hf : f.WellFormed) (hk : f.IsNode k)
    (hne : (f.node k).parent ≠ none) : Relinked f (f.setParent k none) k none :=
  relinked_setParent hf hk (fun p h => absurd h.symm (Option.some_ne_none p)) hne

lemma wellFormed_announce (hf : f.WellFormed) (k : Key) : (f.announce k).WellFormed := by
  refine hf.congr (fun j => ?_) (fun j => ?_) fun t r hr => ?_
  · rw [node_announce]
  · rw [node_announce]
  · rw [roots_of_scenes (scenes_announce f k)] at hr
    exact (isNode_of_length (congrArg List.length (nodes_announce f k))).mpr (hf.roots t r hr)

lemma relinked_destroy (hf : f.WellFormed) (hk : f.IsNode k) (halive : f.IsAlive k) :
    Relinked f (f.destroy k) k none := by
  obtain ⟨u, hu⟩ : ∃ u : Forest, u = (f.announce k).unlink k := ⟨_, rfl⟩
  obtain ⟨v, hv⟩ : ∃ v : Forest, v =
      (u.subtree k).foldl (fun f d => f.modify d fun n => { n with destroyed := true }) u := ⟨_, rfl⟩
  have he : f.destroy k = v.modify k fun n => { n with parent := none } := by
    rw [hv, hu, destroy, if_neg (by rw [halive]; exact Bool.false_ne_true)]
  have hlength : v.nodes.length = f.nodes.length := by
    rw [hv, length_foldl_modify, hu, length_unlink, nodes_announce]
  have hscenes : v.scenes = u.scenes := by
    rw [hv, scenes_foldl_modify]
  have hkeeps : ∀ {α : Type} (φ : Node → α), (∀ n b cs, φ { n with destroyed := b, children := cs } = φ n) →
      ∀ j, φ (v.node j) = φ (f.node j) := by
    intro α φ hφ j
    rw [hv, node_foldl_modify_keeps φ u _ j (fun n => hφ n true n.children), hu,
      node_unlink_keeps φ (fun n cs => hφ n n.destroyed cs), node_announce]
  rw [he]
  refine ⟨fun j => ?_, fun j => ?_, fun t => ?_, fun j => ?_, ?_, ?_⟩
  · rw [node_modify]
    by_cases hj : j = k
    · rw [if_pos ⟨hj, (isNode_of_length hlength).mpr hk⟩, if_pos hj]
    · rw [if_neg (fun h => hj h.1), if_neg hj, hkeeps (·.parent) (fun _ _ _ => rfl)]
  · rw [node_modify_keeps (·.children), hv, node_foldl_modify_keeps (·.children), hu,
      children_unlink (wellFormed_announce hf k), node_announce,
      if_neg (Option.some_ne_none j).symm, List.append_nil]
  · rw [roots_of_scenes (scenes_modify _ _ _), roots_of_scenes hscenes, hu, roots_unlink,
      node_announce, roots_of_scenes (scenes_announce f k)]
  · rw [node_modify_keeps (·.name), hkeeps (·.name) (fun _ _ _ => rfl)]
  · rw [length_modify, hlength]
  · rw [scenes_modify, hscenes, hu, length_scenes_unlink, scenes_announce]

/-! ### Scenes -/

lemma scene_hang (f : Forest) (k j : Key) (up : Option Key) :
    ((f.hang k up).node j).scene = (f.node j).scene :=
  node_hang_keeps (·.scene) (fun _ _ _ => rfl) f k j up

lemma scene_setParent_none (f : Forest) (k j : Key) :
    ((f.setParent k none).node j).scene = (f.node j).scene := by
  rw [setParent_eq_hang]
  split
  · rfl
  · rw [node_announce, scene_hang]

lemma node_destroy_keeps {α : Type} (φ : Node → α)
    (hφ : ∀ n up cs b, φ { n with parent := up, children := cs, destroyed := b } = φ n) (f : Forest)
    (k j : Key) : φ ((f.destroy k).node j) = φ (f.node j) := by
  rw [destroy]
  split
  · rfl
  · rw [node_modify_keeps φ _ k j fun n => hφ n none n.children n.destroyed,
      node_foldl_modify_keeps φ _ _ j fun n => hφ n n.parent n.children true,
      node_unlink_keeps φ fun n cs => hφ n n.parent cs n.destroyed, node_announce]

lemma scene_destroy (f : Forest) (k j : Key) :
    ((f.destroy k).node j).scene = (f.node j).scene :=
  node_destroy_keeps (·.scene) (fun _ _ _ _ => rfl) f k j

section SetParent

variable (hf : f.WellFormed) (hk : f.IsNode k) (hp : f.IsNode p) (hkp : ¬ f.Within k p)
  (hne : (f.node k).parent ≠ some p)
include hf hk hp hkp hne

lemma scene_setParent_of_within (h : f.Within k j) :
    ((f.setParent k (some p)).node j).scene = (f.node p).scene := by
  have hhang : Relinked f (f.hang k (some p)) k (some p) :=
    relinked_hang hf hk fun q hq => by rwa [← Option.some.inj hq]
  have hwf := hhang.wellFormed hf fun q hq => by rwa [← Option.some.inj hq]
  rw [setParent_eq_hang, if_neg hne, node_announce,
    scene_assignScene_of_within hwf (hhang.isNode_iff.mpr hk) _ (hhang.within_iff.mpr h), scene_hang]

lemma scene_setParent_of_not_within (h : ¬ f.Within k j) :
    ((f.setParent k (some p)).node j).scene = (f.node j).scene := by
  have hhang : Relinked f (f.hang k (some p)) k (some p) :=
    relinked_hang hf hk fun q hq => by rwa [← Option.some.inj hq]
  have hwf := hhang.wellFormed hf fun q hq => by rwa [← Option.some.inj hq]
  rw [setParent_eq_hang, if_neg hne, node_announce,
    scene_assignScene_of_not_within hwf (hhang.isNode_iff.mpr hk) _
      (fun hd => h (hhang.within_iff.mp hd)), scene_hang]

end SetParent

lemma Housed.scene_of_within (h : f.Housed s) (hd : f.Within a d) :
    (f.node d).scene = (f.node a).scene := by
  induction hd with
  | refl => rfl
  | tail _ hc ih => rw [h.together _ _ hc, ih]

lemma Housed.scene_of_mem_walk (h : f.Housed s) (hd : d ∈ f.walk s) :
    (f.node d).scene = some s := by
  obtain ⟨r, hr, hd⟩ := h.mem_walk.mp hd
  rw [h.scene_of_within hd, h.housed r hr]

/-- A tree that is hung elsewhere is housed there as a whole. -/
lemma Relinked.housed {up : Option Key} (h : Relinked f g k up) (hf : f.Housed s)
    (hup : ∀ p, up = some p → ¬ f.Within k p)
    (hinside : ∀ j, f.Within k j → (g.node j).scene = (g.node k).scene)
    (houtside : ∀ j, ¬ f.Within k j → (g.node j).scene = (f.node j).scene)
    (hjoined : ∀ p, up = some p → (g.node k).scene = (f.node p).scene) : g.Housed s := by
  have hroot : ∀ r ∈ g.roots s, r ≠ k ∧ r ∈ f.roots s := by
    intro r hr
    refine ⟨?_, h.mem_roots hr⟩
    rintro rfl
    have hr' := h.mem_roots hr
    rw [h.roots, if_pos ⟨hf.parentless r hr', hf.housed r hr'⟩] at hr
    exact hf.nodupRoots.not_mem_erase hr
  refine ⟨h.wellFormed hf.toWellFormed hup, ?_, ?_, ?_, ?_, ?_⟩
  · rw [h.scenes]
    exact hf.known
  · rw [h.roots]
    split
    · exact hf.nodupRoots.erase k
    · exact hf.nodupRoots
  · intro r hr
    obtain ⟨hrk, hr⟩ := hroot r hr
    rw [h.parent, if_neg hrk, hf.parentless r hr]
  · intro r hr
    obtain ⟨hrk, hr⟩ := hroot r hr
    have hout : ¬ f.Within k r := fun hin => hrk (eq_of_within_root (hf.parentless r hr) hin)
    rw [houtside r hout, hf.housed r hr]
  · intro p c hpc
    rw [h.isChild_iff] at hpc
    by_cases hck : c = k
    · rw [if_pos hck] at hpc
      rw [hck, hjoined p hpc, houtside p (hup p hpc)]
    · rw [if_neg hck] at hpc
      by_cases hin : f.Within k p
      · rw [hinside c (hin.tail hpc), hinside p hin]
      · have hout : ¬ f.Within k c := fun h => hin (within_parent hpc hck h)
        rw [houtside c hout, houtside p hin, hf.together p c hpc]

/-- A tree that is hung nowhere keeps its scene. -/
lemma Relinked.housed_none (h : Relinked f g k none) (hf : f.Housed s)
    (hscene : ∀ j, (g.node j).scene = (f.node j).scene) : g.Housed s := by
  have hnone : ∀ (Q : Key → Prop) p, none = some p → Q p :=
    fun _ p h => absurd h.symm (Option.some_ne_none p)
  refine h.housed hf (hnone _) (fun j hj => ?_) (fun j _ => hscene j) (hnone _)
  rw [hscene, hscene, hf.scene_of_within hj]

/-! ### Edits -/

lemma Housed.congr (h : f.Housed s) (hparent : ∀ j, (g.node j).parent = (f.node j).parent)
    (hchildren : ∀ j, (g.node j).children = (f.node j).children)
    (hscene : ∀ j, (g.node j).scene = (f.node j).scene) (hroots : ∀ t, g.roots t = f.roots t)
    (hnodes : f.nodes.length ≤ g.nodes.length) (hscenes : f.scenes.length ≤ g.scenes.length) :
    g.Housed s := by
  refine ⟨h.toWellFormed.congr hparent hchildren fun t r hr => ?_, ?_, ?_, ?_, ?_, ?_⟩
  · rw [hroots] at hr
    have hrange := isNode_iff.mp (h.roots t r hr)
    exact isNode_iff.mpr ⟨hrange.1, hrange.2.trans hnodes⟩
  · exact Nat.lt_of_lt_of_le h.known hscenes
  · rw [hroots]
    exact h.nodupRoots
  · intro r hr
    rw [hroots] at hr
    rw [hparent, h.parentless r hr]
  · intro r hr
    rw [hroots] at hr
    rw [hscene, h.housed r hr]
  · intro p c hpc
    rw [IsChild, hparent] at hpc
    rw [hscene, hscene, h.together p c hpc]

lemma node_create {n : Node} {j : Nat} :
    (f.create n).1.node j = if j = f.nodes.length + 1 then n else f.node j := by
  cases j with
  | zero => rfl
  | succ i =>
    simp only [create, node, node?, List.getElem?_append, Nat.succ.injEq]
    rcases Nat.lt_trichotomy i f.nodes.length with hi | hi | hi
    · rw [if_pos hi, if_neg (Nat.ne_of_lt hi)]
    · simp [hi]
    · rw [if_neg (Nat.lt_asymm hi), if_neg (Nat.ne_of_gt hi),
        List.getElem?_eq_none (Nat.le_of_lt hi)]
      have hout : [n][i - f.nodes.length]? = none := by
        rw [List.getElem?_eq_none]
        simp only [List.length_singleton]
        omega
      rw [hout]

/-- A new node has no relations, like a key that no node has. -/
lemma node_create_keeps {α : Type} (φ : Node → α) (f : Forest) (n : Node)
    (hn : φ n = φ (Node.new "" [] true)) (j : Key) : φ ((f.create n).1.node j) = φ (f.node j) := by
  rw [node_create]
  split
  · next h =>
    rw [hn, h, node_of_not_isNode]
    rw [isNode_iff]
    omega
  · rfl

lemma isNode_create {n : Node} {j : Nat} (hj : j ≠ f.nodes.length + 1) :
    (f.create n).1.IsNode j ↔ f.IsNode j := by
  rw [isNode_iff, isNode_iff, create, List.length_append, List.length_singleton]
  omega

lemma roots_addScene (f : Forest) (name : String) (t : SceneId) :
    (f.addScene name).1.roots t = f.roots t := by
  simp only [roots, scene, scene?, addScene, List.getElem?_append]
  split
  · rfl
  · next h =>
    rw [List.getElem?_eq_none (Nat.le_of_not_lt h)]
    cases t - f.scenes.length <;> rfl

lemma Housed.addScene (h : f.Housed s) (name : String) : (f.addScene name).1.Housed s :=
  h.congr (fun _ => rfl) (fun _ => rfl) (fun _ => rfl) (roots_addScene f name) (Nat.le_refl _)
    (by simp [Forest.addScene])

lemma Housed.create (h : f.Housed s) (name : String) (components : List Component)
    (active : Bool) : (f.create (Node.new name components active)).1.Housed s :=
  h.congr (node_create_keeps (·.parent) f _ rfl) (node_create_keeps (·.children) f _ rfl)
    (node_create_keeps (·.scene) f _ rfl) (fun _ => rfl) (by simp [Forest.create]) (Nat.le_refl _)

lemma node_rename_keeps {α : Type} (φ : Node → α) (hφ : ∀ n name, φ { n with name := name } = φ n)
    (f : Forest) (k : Key) (name : String) (j : Key) :
    φ ((f.rename k name).node j) = φ (f.node j) := by
  rw [Forest.rename]
  split
  · rfl
  · rw [node_announce, node_modify_keeps φ f k j fun n => hφ n name]

lemma scenes_rename (f : Forest) (k : Key) (name : String) :
    (f.rename k name).scenes = f.scenes := by
  rw [Forest.rename]
  split
  · rfl
  · rw [scenes_announce, scenes_modify]

lemma length_rename (f : Forest) (k : Key) (name : String) :
    (f.rename k name).nodes.length = f.nodes.length := by
  rw [Forest.rename]
  split
  · rfl
  · rw [nodes_announce, length_modify]

lemma Housed.rename (h : f.Housed s) (k : Key) (name : String) : (f.rename k name).Housed s :=
  h.congr (node_rename_keeps (·.parent) (fun _ _ => rfl) f k name)
    (node_rename_keeps (·.children) (fun _ _ => rfl) f k name)
    (node_rename_keeps (·.scene) (fun _ _ => rfl) f k name)
    (roots_of_scenes (scenes_rename f k name)) (Nat.le_of_eq (length_rename f k name).symm)
    (Nat.le_of_eq (congrArg List.length (scenes_rename f k name)).symm)

lemma Housed.setParent_none (h : f.Housed s) (hk : f.IsNode k) : (f.setParent k none).Housed s := by
  by_cases hp : (f.node k).parent = none
  · rwa [setParent, if_pos hp]
  · exact (relinked_setParent_none h.toWellFormed hk hp).housed_none h (scene_setParent_none f k)

lemma Housed.setParent_some (h : f.Housed s) (hk : f.IsNode k) (hp : f.IsNode p)
    (hkp : ¬ f.Within k p) : (f.setParent k (some p)).Housed s := by
  by_cases hne : (f.node k).parent = some p
  · rwa [setParent, if_pos hne]
  · have hin : ∀ j, f.Within k j → ((f.setParent k (some p)).node j).scene = (f.node p).scene :=
      fun j => scene_setParent_of_within h.toWellFormed hk hp hkp hne
    have hlinks : Relinked f (f.setParent k (some p)) k (some p) :=
      relinked_setParent h.toWellFormed hk (fun q hq => by rwa [← Option.some.inj hq]) hne
    refine hlinks.housed h (fun q hq => by rwa [← Option.some.inj hq]) (fun j hj => ?_)
      (fun j => scene_setParent_of_not_within h.toWellFormed hk hp hkp hne) fun q hq => ?_
    · rw [hin j hj, hin k .refl]
    · rw [hin k .refl, Option.some.inj hq]

lemma Housed.scene_setParent (h : f.Housed s) (hk : f.IsNode k) (hp : f.IsNode p)
    (hkp : ¬ f.Within k p) : ((f.setParent k (some p)).node k).scene = (f.node p).scene := by
  by_cases hne : (f.node k).parent = some p
  · rw [setParent, if_pos hne, h.together p k hne]
  · exact scene_setParent_of_within h.toWellFormed hk hp hkp hne .refl

lemma Housed.destroy (h : f.Housed s) (hk : f.IsNode k) : (f.destroy k).Housed s := by
  by_cases halive : f.IsAlive k
  · exact (relinked_destroy h.toWellFormed hk halive).housed_none h (scene_destroy f k)
  · rw [Forest.destroy, if_pos (by simpa [IsAlive] using halive)]
    exact h

/-! ### New roots -/

lemma isNode_setParent (hf : f.WellFormed) (hk : f.IsNode k) :
    (f.setParent k none).IsNode j ↔ f.IsNode j := by
  by_cases hp : (f.node k).parent = none
  · rw [setParent, if_pos hp]
  · exact (relinked_setParent_none hf hk hp).isNode_iff

lemma parent_setParent_none (hf : f.WellFormed) (hk : f.IsNode k) :
    ((f.setParent k none).node k).parent = none := by
  by_cases hp : (f.node k).parent = none
  · rwa [setParent, if_pos hp]
  · rw [(relinked_setParent_none hf hk hp).parent, if_pos rfl]

lemma length_assignScene (f : Forest) (k : Key) (sc : Option SceneId) :
    (f.assignScene k sc).nodes.length = f.nodes.length :=
  length_foldl_modify f _ _

/-- A whole tree may enter a scene. -/
lemma Housed.assignScene (h : f.Housed s) (hk : f.IsNode k) (hroot : (f.node k).parent = none) :
    (f.assignScene k (some s)).Housed s := by
  have hwithin := fun j => scene_assignScene_of_within (j := j) h.toWellFormed hk (some s)
  have hout := fun j => scene_assignScene_of_not_within (j := j) h.toWellFormed hk (some s)
  have hparent : ∀ j, ((f.assignScene k (some s)).node j).parent = (f.node j).parent := fun j =>
    node_foldl_modify_keeps (·.parent) f _ j
  have hscenes : (f.assignScene k (some s)).scenes = f.scenes := scenes_foldl_modify f _ _
  refine ⟨h.toWellFormed.congr hparent (fun j => ?_) fun t r hr => ?_, ?_, ?_, ?_, ?_, ?_⟩
  · exact node_foldl_modify_keeps (·.children) f _ j
  · rw [roots_of_scenes hscenes] at hr
    exact (isNode_of_length (length_assignScene f k _)).mpr (h.roots t r hr)
  · rw [hscenes]
    exact h.known
  · rw [roots_of_scenes hscenes]
    exact h.nodupRoots
  · intro r hr
    rw [roots_of_scenes hscenes] at hr
    rw [hparent, h.parentless r hr]
  · intro r hr
    rw [roots_of_scenes hscenes] at hr
    by_cases hin : f.Within k r
    · exact hwithin r hin
    · rw [hout r hin, h.housed r hr]
  · intro p c hpc
    rw [IsChild, hparent] at hpc
    by_cases hin : f.Within k p
    · rw [hwithin c (hin.tail hpc), hwithin p hin]
    · have hck : c ≠ k := by
        rintro rfl
        cases hroot.symm.trans hpc
      rw [hout c fun hc => hin (within_parent hpc hck hc), hout p hin, h.together p c hpc]

lemma node_addRoot_keeps {α : Type} (φ : Node → α)
    (hφ : ∀ n sc, φ { n with scene := sc } = φ n) (f : Forest) (t : SceneId) (k j : Key) :
    φ ((f.addRoot t k).node j) = φ ((f.setParent k none).node j) :=
  node_foldl_modify_keeps φ (f.setParent k none) _ j fun n => hφ n (some t)

lemma isNode_addRoot (hf : f.WellFormed) (hk : f.IsNode k) (t : SceneId) :
    (f.addRoot t k).IsNode j ↔ f.IsNode j := by
  rw [← isNode_setParent hf hk]
  exact isNode_of_length (length_assignScene (f.setParent k none) k (some t))

lemma roots_addRoot (f : Forest) (k : Key) {t : SceneId}
    (ht : t < (f.setParent k none).scenes.length) (u : SceneId) :
    (f.addRoot t k).roots u = if u = t then
      if ((f.setParent k none).roots u).contains k then (f.setParent k none).roots u
      else (f.setParent k none).roots u ++ [k]
    else (f.setParent k none).roots u := by
  have hscenes : ((f.setParent k none).assignScene k (some t)).scenes =
      (f.setParent k none).scenes := scenes_foldl_modify _ _ _
  rw [← roots_of_scenes hscenes]
  exact roots_modifyScene (v := fun rs => if rs.contains k then rs else rs ++ [k])
    (fun _ => rfl) _ (.inr (by rwa [hscenes])) u

lemma mem_roots_addRoot {t : SceneId} (ht : t < (f.setParent k none).scenes.length) (u : SceneId)
    (r : Key) :
    r ∈ (f.addRoot t k).roots u ↔ r ∈ (f.setParent k none).roots u ∨ u = t ∧ r = k := by
  rw [roots_addRoot f k ht]
  by_cases hu : u = t
  · rw [if_pos hu]
    by_cases hk : k ∈ (f.setParent k none).roots u
    · rw [if_pos (List.contains_iff_mem.mpr hk)]
      refine ⟨.inl, fun h => h.elim id ?_⟩
      rintro ⟨-, rfl⟩
      exact hk
    · rw [if_neg (fun h => hk (List.contains_iff_mem.mp h)), List.mem_append,
        List.mem_singleton]
      simp [hu]
  · rw [if_neg hu]
    simp [hu]

/-- A node that becomes a root takes all below it into the scene. -/
lemma Housed.addRoot (h : f.Housed s) (hk : f.IsNode k) : (f.addRoot s k).Housed s := by
  have hmoved := h.setParent_none hk
  have hk' : (f.setParent k none).IsNode k := (isNode_setParent h.toWellFormed hk).mpr hk
  have hroot := parent_setParent_none h.toWellFormed hk
  have hg := hmoved.assignScene hk' hroot
  have hself := scene_assignScene_of_within hmoved.toWellFormed hk' (some s) .refl
  have hparent := node_addRoot_keeps (·.parent) (fun _ _ => rfl) f s k
  refine ⟨hg.toWellFormed.congr (fun _ => rfl) (fun _ => rfl) fun t r hr => ?_, ?_, ?_, ?_, ?_, ?_⟩
  · refine (isNode_addRoot h.toWellFormed hk s).mpr ((isNode_setParent h.toWellFormed hk).mp ?_)
    rcases (mem_roots_addRoot hmoved.known t r).mp hr with hr | ⟨-, rfl⟩
    · exact hmoved.roots t r hr
    · exact hk'
  · exact Nat.lt_of_lt_of_eq hg.known (List.length_modify ..).symm
  · rw [roots_addRoot f k hmoved.known, if_pos rfl]
    split
    · exact hmoved.nodupRoots
    · next hout =>
      refine List.nodup_append.mpr ⟨hmoved.nodupRoots, List.nodup_singleton k, ?_⟩
      intro a ha b hb
      rw [List.mem_singleton.mp hb]
      rintro rfl
      exact hout (List.contains_iff_mem.mpr ha)
  · intro r hr
    rw [hparent]
    rcases (mem_roots_addRoot hmoved.known s r).mp hr with hr | ⟨-, rfl⟩
    · exact hmoved.parentless r hr
    · exact hroot
  · intro r hr
    rcases (mem_roots_addRoot hmoved.known s r).mp hr with hr | ⟨-, rfl⟩
    · have hscenes : ((f.setParent k none).assignScene k (some s)).scenes =
          (f.setParent k none).scenes := scenes_foldl_modify _ _ _
      refine hg.housed r ?_
      rwa [roots_of_scenes hscenes]
    · exact hself
  · exact hg.together

/-- **Edits that hang nothing below itself keep a scene in order.** -/
theorem Housed.edit (h : f.Housed s) {e : Edit} (he : f.Allows s e) : (f.edit e).Housed s := by
  cases e with
  | addScene name => exact h.addScene name
  | create name components active => exact h.create name components active
  | setParent k up =>
    cases up with
    | none => exact h.setParent_none he
    | some p => exact h.setParent_some he.1 he.2.1 he.2.2
  | addRoot t k =>
    obtain ⟨rfl, hk⟩ := he
    exact h.addRoot hk
  | rename k name => exact h.rename k name
  | destroy k => exact h.destroy he

lemma allows_setParent (hk : f.IsNode k) (hp : f.IsNode p) (hroot : (f.node p).parent = none)
    (hne : p ≠ k) : f.Allows s (.setParent k (some p)) :=
  ⟨hk, hp, fun h => hne (eq_of_within_root hroot h)⟩

/-- All edits of a list, each in the forest that the ones before it leave. -/
def AllowsAll (f : Forest) (s : SceneId) : List Edit → Prop
  | [] => True
  | e :: es => f.Allows s e ∧ (f.edit e).AllowsAll s es

theorem Housed.edits {es : List Edit} (h : f.Housed s) (hes : f.AllowsAll s es) :
    (es.foldl Forest.edit f).Housed s := by
  induction es generalizing f with
  | nil => exact h
  | cons e es ih => exact ih (h.edit hes.1) hes.2

/-- A new scene has no roots, whatever trees there are outside of scenes. -/
lemma housed_addScene_empty (name : String) : (empty.addScene name).1.Housed 0 where
  children p c := by cases p <;> cases c <;> simp [addScene, empty, node, node?, IsChild, Node.new]
  nodup p := by cases p <;> simp [addScene, empty, node, node?, Node.new]
  ends := ⟨fun k => ⟨k, fun p hp => by cases k <;> cases hp⟩⟩
  roots t r hr := by
    rw [roots_addScene] at hr
    simp [roots, scene, scene?, empty] at hr
  known := Nat.zero_lt_one
  nodupRoots := .nil
  parentless := nofun
  housed := nofun
  together p c _ := by cases p <;> cases c <;> rfl

end SceneBindings.Forest
