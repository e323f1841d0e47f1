import SceneBindings.Proofs.Forest.Housing

/-!
How far an edit reaches. It touches the tree of one node only, and if that tree is one of a scene
then the scene is told of all that is touched: unless a node leaves for a place outside of the scene,
or joins it as a root, which it is not told.
-/

namespace SceneBindings.Forest

variable {f g h : Forest} {s : SceneId} {a b d j k n p : Key}

/-- An edit that a scene is not told of: its nodes go elsewhere with a new parent, or become a root
of it without leaving a parent in it. -/
def Silent (f : Forest) (s : SceneId) : Edit → Prop
  | .setParent k (some p) => (f.node k).scene = some s ∧ (f.node p).scene ≠ some s
  | .addRoot t k =>
    t = s ∧ k ∉ f.roots s ∧ ((f.node k).parent = none ∨ (f.node k).scene ≠ some s)
  | _ => False

/-- The second forest is the first outside of the tree of one node. -/
structure Touches (f g : Forest) (k : Key) (s : SceneId) : Prop where
  before : f.WellFormed
  after : g.WellFormed
  isNode : ∀ d, d ≠ k → (g.IsNode d ↔ f.IsNode d)
  parent : ∀ d, d ≠ k → (g.node d).parent = (f.node d).parent
  name : ∀ d, d ≠ k → (g.node d).name = (f.node d).name
  roots : ∀ r, r ≠ k → (r ∈ g.roots s ↔ r ∈ f.roots s)

namespace Touches

variable (ht : Touches f g k s)
include ht

lemma isChild_iff (hd : d ≠ k) : g.IsChild p d ↔ f.IsChild p d := by
  rw [IsChild, IsChild, ht.parent d hd]

lemma within_iff : g.Within k d ↔ f.Within k d := within_iff_of_parents ht.parent

/-- The induction goes up from parent to parent, none of which is the node. -/
lemma chain_eq (hd : f.IsNode d) (hkd : ¬ f.Within k d) : g.chain d = f.chain d := by
  induction d using ht.before.ends.induction with
  | _ d ih =>
    have hdk : d ≠ k := by
      rintro rfl
      exact hkd .refl
    have hdg : g.IsNode d := (ht.isNode d hdk).mpr hd
    cases hp : (f.node d).parent with
    | none =>
      rw [ht.before.chain_of_root hd hp, ht.after.chain_of_root hdg ((ht.parent d hdk).trans hp)]
    | some p =>
      have hchild : f.IsChild p d := hp
      rw [ht.before.chain_of_child hchild,
        ht.after.chain_of_child ((ht.isChild_iff hdk).mpr hchild),
        ih p hchild (ht.before.isNode_parent hchild) fun h => hkd (h.tail hchild)]

lemma fullPath_eq (hd : f.IsNode d) (hkd : ¬ f.Within k d) : g.fullPath d = f.fullPath d := by
  rw [fullPath, fullPath, ht.chain_eq hd hkd]
  refine congrArg _ (List.map_congr_left fun a ha => ht.name a ?_)
  rintro rfl
  exact hkd ((ht.before.mem_chain hd).mp (List.mem_reverse.mp ha))

lemma isNode_of_not_within (hd : g.IsNode d) (hkd : ¬ f.Within k d) : f.IsNode d := by
  refine (ht.isNode d ?_).mp hd
  rintro rfl
  exact hkd .refl

lemma within_iff_of_not_within (hd : f.IsNode d) (hkd : ¬ f.Within k d) :
    g.Within a d ↔ f.Within a d := by
  have hdk : d ≠ k := by
    rintro rfl
    exact hkd .refl
  rw [← ht.after.mem_chain ((ht.isNode d hdk).mpr hd), ht.chain_eq hd hkd, ht.before.mem_chain hd]

lemma mem_walk_iff (hd : f.IsNode d) (hkd : ¬ f.Within k d) : d ∈ g.walk s ↔ d ∈ f.walk s := by
  rw [ht.before.mem_walk, ht.after.mem_walk]
  refine exists_congr fun r => ?_
  rw [ht.within_iff_of_not_within hd hkd]
  refine and_congr_left fun hr => ht.roots r ?_
  rintro rfl
  exact hkd hr

end Touches

/-! ### The walk of a scene -/

lemma Housed.mem_walk_parent (hf : f.Housed s) (hn : n ∈ f.walk s) (hp : f.IsChild p n) :
    p ∈ f.walk s := by
  obtain ⟨r, hr, hn⟩ := hf.mem_walk.mp hn
  refine hf.mem_walk.mpr ⟨r, hr, within_parent hp ?_ hn⟩
  rintro rfl
  cases (hf.parentless n hr).symm.trans hp

/-- A scene shows whole trees. -/
lemma Housed.mem_walk_above (hf : f.Housed s) (hn : n ∈ f.walk s) (h : f.Within k n) :
    k ∈ f.walk s := by
  induction h with
  | refl => exact hn
  | tail _ hp ih => exact ih (hf.mem_walk_parent hn hp)

lemma Housed.not_mem_walk (hf : f.Housed s) (hk : (f.node k).scene ≠ some s) : k ∉ f.walk s :=
  fun h => hk (hf.scene_of_mem_walk h)

lemma Housed.zero_not_mem_walk (hf : f.Housed s) : (0 : Key) ∉ f.walk s := by
  intro h
  have hpos := isNode_iff.mp (hf.isNode_of_mem_walk h)
  exact absurd hpos.1 (Nat.not_succ_le_zero 0)

/-! ### Announcements -/

lemma changes_modify (f : Forest) (k : Key) (u : Node → Node) :
    (f.modify k u).changes = f.changes := by
  cases k <;> rfl

lemma changes_foldl_modify (f : Forest) (ks : List Key) (u : Node → Node) :
    (ks.foldl (fun f k => f.modify k u) f).changes = f.changes := by
  induction ks generalizing f with
  | nil => rfl
  | cons k ks ih => rw [List.foldl_cons, ih, changes_modify]

lemma changes_unlink (f : Forest) (k : Key) : (f.unlink k).changes = f.changes := by
  rw [unlink]
  split
  · exact changes_modify f _ _
  · rfl
  · rfl

lemma changes_hang (f : Forest) (k : Key) (up : Option Key) :
    (f.hang k up).changes = f.changes := by
  have hu : ((f.unlink k).modify k fun n => { n with parent := up }).changes = f.changes := by
    rw [changes_modify, changes_unlink]
  cases up with
  | none => exact hu
  | some p => exact (changes_modify _ p _).trans hu

lemma subtree_of_nodes (h : g.nodes = f.nodes) (k : Key) : g.subtree k = f.subtree k := by
  have hnode : ∀ j, (g.node j).children = (f.node j).children := by
    intro j
    cases j <;> simp [node, node?, h]
  rw [subtree, subtree, h, subtreeTo_of_children hnode]

lemma changes_announce (f : Forest) (k : Key) :
    ∃ news, (f.announce k).changes = news ++ f.changes := by
  rw [announce]
  split
  · exact ⟨[_], rfl⟩
  · exact ⟨[], rfl⟩

lemma changes_announce_of_scene (h : (f.node k).scene = some s) :
    (f.announce k).changes = [⟨s, k, f.subtree k⟩] ++ f.changes := by
  rw [announce, h]
  rfl

lemma setParent_eq_announce (f : Forest) (k : Key) {up : Option Key}
    (hne : (f.node k).parent ≠ up) :
    ∃ h : Forest, f.setParent k up = h.announce k ∧ h.changes = f.changes := by
  rw [setParent_eq_hang, if_neg hne]
  cases up with
  | none => exact ⟨_, rfl, changes_hang f k none⟩
  | some p => exact ⟨_, rfl, (changes_foldl_modify _ _ _).trans (changes_hang f k (some p))⟩

lemma changes_setParent (f : Forest) (k : Key) (up : Option Key) :
    ∃ news, (f.setParent k up).changes = news ++ f.changes := by
  by_cases hne : (f.node k).parent = up
  · rw [setParent, if_pos hne]
    exact ⟨[], rfl⟩
  · obtain ⟨h, heq, hchanges⟩ := setParent_eq_announce f k hne
    rw [heq, ← hchanges]
    exact changes_announce h k

lemma changes_addRoot (f : Forest) (t : SceneId) (k : Key) :
    (f.addRoot t k).changes = (f.setParent k none).changes :=
  changes_foldl_modify _ _ _

lemma changes_destroy (f : Forest) (k : Key) (h : f.IsAlive k) :
    (f.destroy k).changes = (f.announce k).changes := by
  rw [destroy, if_neg (by rw [h]; exact Bool.false_ne_true), changes_modify, changes_foldl_modify,
    changes_unlink]

lemma changes_edit (f : Forest) (e : Edit) : ∃ news, (f.edit e).changes = news ++ f.changes := by
  cases e with
  | addScene name => exact ⟨[], rfl⟩
  | create name components active => exact ⟨[], rfl⟩
  | setParent k up => exact changes_setParent f k up
  | addRoot t k =>
    rw [edit, changes_addRoot]
    exact changes_setParent f k none
  | rename k name =>
    rw [edit, rename]
    split
    · exact ⟨[], rfl⟩
    · rw [← changes_modify f k fun n => { n with name }]
      exact changes_announce _ k
  | destroy k =>
    rw [edit]
    by_cases h : f.IsAlive k
    · rw [changes_destroy f k h]
      exact changes_announce f k
    · rw [destroy, if_pos (by simpa [IsAlive] using h)]
      exact ⟨[], rfl⟩

/-- A new change tells the scene of the whole tree of a node. -/
def Tells (f g : Forest) (k : Key) (s : SceneId) : Prop :=
  ∃ c, g.changes = [c] ++ f.changes ∧ c.scene = s ∧ ∀ d, f.Within k d → d ∈ c.affected

lemma tells_announce (hh : (h.announce k).WellFormed) (hk : (h.announce k).IsNode k)
    (hchanges : h.changes = f.changes) (hs : ((h.announce k).node k).scene = some s)
    (hwithin : ∀ d, (h.announce k).Within k d ↔ f.Within k d) : Tells f (h.announce k) k s := by
  rw [node_announce] at hs
  refine ⟨⟨s, k, h.subtree k⟩, ?_, rfl, fun d hd => ?_⟩
  · rw [changes_announce_of_scene hs, hchanges]
  · rw [← subtree_of_nodes (nodes_announce h k), hh.mem_subtree hk, hwithin]
    exact hd

lemma touches_self (hf : f.WellFormed) (k : Key) (s : SceneId) : Touches f f k s where
  before := hf
  after := hf
  isNode _ _ := Iff.rfl
  parent _ _ := rfl
  name _ _ := rfl
  roots _ _ := Iff.rfl

lemma touches_of_relinked {up : Option Key} (h : Relinked f g k up) (hf : f.WellFormed)
    (hg : g.WellFormed) (s : SceneId) : Touches f g k s where
  before := hf
  after := hg
  isNode _ _ := h.isNode_iff
  parent d hd := by rw [h.parent, if_neg hd]
  name d _ := h.name d
  roots r hr := by
    rw [h.roots]
    split
    · exact List.mem_erase_of_ne hr
    · rfl

/-! ### Edits -/

/-- An edit touches one tree, of which the scene is told or has no part. -/
def Reaches (f g : Forest) (s : SceneId) : Prop :=
  ∃ k, Touches f g k s ∧ (Tells f g k s ∨ k ∉ f.walk s ∧ k ∉ g.walk s)

lemma reaches_self (hf : f.Housed s) : Reaches f f s :=
  ⟨0, touches_self hf.toWellFormed 0 s, .inr ⟨hf.zero_not_mem_walk, hf.zero_not_mem_walk⟩⟩

lemma tells_setParent (hk : f.IsNode k) {up : Option Key} (hne : (f.node k).parent ≠ up)
    (hlinks : Relinked f (f.setParent k up) k up) (hg : (f.setParent k up).WellFormed)
    (hs : ((f.setParent k up).node k).scene = some s) : Tells f (f.setParent k up) k s := by
  have hk' := hlinks.isNode_iff.mpr hk
  have hwithin : ∀ d, (f.setParent k up).Within k d ↔ f.Within k d := fun d => hlinks.within_iff
  obtain ⟨h, heq, hchanges⟩ := setParent_eq_announce f k hne
  rw [heq] at hg hs hwithin hk' ⊢
  exact tells_announce hg hk' hchanges hs hwithin

lemma reaches_setParent (hf : f.Housed s) (hk : f.IsNode k) {up : Option Key}
    (hlinks : (f.node k).parent ≠ up → Relinked f (f.setParent k up) k up)
    (hg : (f.setParent k up).Housed s) (hs : (f.node k).scene ≠ some s ∨ ((f.setParent k up).node k).scene = some s) :
    Reaches f (f.setParent k up) s := by
  by_cases hne : (f.node k).parent = up
  · rw [setParent, if_pos hne]
    exact reaches_self hf
  · have hlinks := hlinks hne
    refine ⟨k, touches_of_relinked hlinks hf.toWellFormed hg.toWellFormed s, ?_⟩
    by_cases hs' : ((f.setParent k up).node k).scene = some s
    · exact .inl (tells_setParent hk hne hlinks hg.toWellFormed hs')
    · exact .inr ⟨hf.not_mem_walk (hs.resolve_right hs'), hg.not_mem_walk hs'⟩

lemma reaches_rename (hf : f.Housed s) (hk : f.IsNode k) (name : String) :
    Reaches f (f.rename k name) s := by
  have hg := hf.rename k name
  by_cases hname : (f.node k).name = name
  · rw [rename, if_pos hname]
    exact reaches_self hf
  · have heq : f.rename k name = (f.modify k fun n => { n with name }).announce k := by
      rw [rename, if_neg hname]
    have hparent : ∀ d, ((f.rename k name).node d).parent = (f.node d).parent := by
      intro d
      rw [heq, node_announce, node_modify_keeps (·.parent)]
    have hnodes : ∀ d, (f.rename k name).IsNode d ↔ f.IsNode d := by
      intro d
      rw [heq]
      exact isNode_of_length (by rw [nodes_announce, length_modify])
    have hscene : ((f.rename k name).node k).scene = (f.node k).scene := by
      rw [heq, node_announce, node_modify_keeps (·.scene)]
    refine ⟨k, ⟨hf.toWellFormed, hg.toWellFormed, fun d _ => hnodes d, fun d _ => hparent d,
      fun d hd => ?_, fun r _ => ?_⟩, ?_⟩
    · rw [heq, node_announce, node_modify, if_neg fun h => hd h.1]
    · rw [heq, roots_of_scenes (scenes_announce _ k), roots_of_scenes (scenes_modify f k _)]
    · by_cases hs : (f.node k).scene = some s
      · have hwithin : ∀ d, (f.rename k name).Within k d ↔ f.Within k d :=
          fun d => within_iff_of_parents fun j _ => hparent j
        have hk' := (hnodes k).mpr hk
        have hg' := hg.toWellFormed
        rw [← hscene] at hs
        rw [heq] at hs hwithin hk' hg' ⊢
        exact .inl (tells_announce hg' hk' (changes_modify f k _) hs hwithin)
      · exact .inr ⟨hf.not_mem_walk hs, hg.not_mem_walk (by rwa [hscene])⟩

lemma reaches_destroy (hf : f.Housed s) (hk : f.IsNode k) : Reaches f (f.destroy k) s := by
  have hg := hf.destroy hk
  by_cases halive : f.IsAlive k
  · have hlinks := relinked_destroy hf.toWellFormed hk halive
    refine ⟨k, touches_of_relinked hlinks hf.toWellFormed hg.toWellFormed s, ?_⟩
    by_cases hs : (f.node k).scene = some s
    · refine .inl ⟨⟨s, k, f.subtree k⟩, ?_, rfl, fun d hd => (hf.mem_subtree hk).mpr hd⟩
      rw [changes_destroy f k halive, changes_announce_of_scene hs]
    · exact .inr ⟨hf.not_mem_walk hs, hg.not_mem_walk (by rwa [scene_destroy])⟩
  · rw [destroy, if_pos (by simpa [IsAlive] using halive)]
    exact reaches_self hf

/-- A root that is made a root again stays as it is; one that leaves its parent is announced. -/
lemma reaches_addRoot (hf : f.Housed s) (hk : f.IsNode k)
    (hs : k ∈ f.roots s ∨ (f.node k).parent ≠ none ∧ (f.node k).scene = some s) :
    Reaches f (f.addRoot s k) s := by
  have hg := hf.addRoot hk
  have hmoved := hf.setParent_none hk
  have hparent := node_addRoot_keeps (·.parent) (fun _ _ => rfl) f s k
  have hname := node_addRoot_keeps (·.name) (fun _ _ => rfl) f s k
  have hnodes : ∀ d, (f.addRoot s k).IsNode d ↔ f.IsNode d :=
    fun d => isNode_addRoot hf.toWellFormed hk s
  have hroots := mem_roots_addRoot hmoved.known s
  rcases hs with hroot | ⟨hne, hs⟩
  · have hp := hf.parentless k hroot
    have hsame : f.setParent k none = f := by
      rw [setParent, if_pos hp]
    rw [hsame] at hparent hname hroots
    refine ⟨0, ⟨hf.toWellFormed, hg.toWellFormed, fun d _ => hnodes d, fun d _ => hparent d,
      fun d _ => hname d, fun r _ => ?_⟩, .inr ⟨hf.zero_not_mem_walk, hg.zero_not_mem_walk⟩⟩
    rw [hroots]
    refine ⟨fun h => h.elim id ?_, .inl⟩
    rintro ⟨-, rfl⟩
    exact hroot
  · have hlinks := relinked_setParent_none hf.toWellFormed hk hne
    have htouches := touches_of_relinked hlinks hf.toWellFormed hmoved.toWellFormed s
    refine ⟨k, ⟨hf.toWellFormed, hg.toWellFormed, fun d _ => hnodes d,
      fun d hd => (hparent d).trans (htouches.parent d hd),
      fun d hd => (hname d).trans (htouches.name d hd), fun r hr => ?_⟩, .inl ?_⟩
    · rw [hroots, htouches.roots r hr]
      exact or_iff_left fun h => hr h.2
    · obtain ⟨c, hchanges, htold⟩ := tells_setParent hk hne hlinks hmoved.toWellFormed
        (by rwa [scene_setParent_none])
      exact ⟨c, (changes_addRoot f s k).trans hchanges, htold⟩

lemma reaches_addScene (hf : f.Housed s) (name : String) : Reaches f (f.addScene name).1 s := by
  have hg := hf.addScene name
  refine ⟨0, ⟨hf.toWellFormed, hg.toWellFormed, fun _ _ => Iff.rfl, fun _ _ => rfl, fun _ _ => rfl,
    fun r _ => ?_⟩, .inr ⟨hf.zero_not_mem_walk, hg.zero_not_mem_walk⟩⟩
  rw [roots_addScene]

lemma reaches_create (hf : f.Housed s) (name : String) (components : List Component)
    (active : Bool) : Reaches f (f.create (Node.new name components active)).1 s := by
  have hg := hf.create name components active
  have hnode : ∀ d, d ≠ f.nodes.length + 1 →
      (f.create (Node.new name components active)).1.node d = f.node d :=
    fun d hd => by rw [node_create, if_neg hd]
  have hscene : (f.node (f.nodes.length + 1)).scene = none := by
    rw [node_of_not_isNode]
    · rfl
    · rw [isNode_iff]
      omega
  refine ⟨f.nodes.length + 1, ⟨hf.toWellFormed, hg.toWellFormed, fun d hd => isNode_create hd,
    fun d hd => by rw [hnode d hd], fun d hd => by rw [hnode d hd], fun _ _ => Iff.rfl⟩,
    .inr ⟨hf.not_mem_walk ?_, hg.not_mem_walk ?_⟩⟩
  · rw [hscene]
    nofun
  · rw [node_create, if_pos rfl]
    nofun

/-- **The reach of an edit.** What an edit that is not silent touches in a scene, the scene is told. -/
theorem reaches_edit (hf : f.Housed s) {e : Edit} (he : f.Allows s e) (hs : ¬ f.Silent s e) :
    Reaches f (f.edit e) s := by
  have hg := hf.edit he
  cases e with
  | addScene name => exact reaches_addScene hf name
  | create name components active => exact reaches_create hf name components active
  | setParent k up =>
    cases up with
    | none =>
      refine reaches_setParent hf he (relinked_setParent_none hf.toWellFormed he) hg ?_
      rw [scene_setParent_none]
      exact (Classical.em _).symm
    | some p =>
      obtain ⟨hk, hp, hkp⟩ := he
      have hup : ∀ q, some p = some q → f.IsNode q := fun q hq => by rwa [← Option.some.inj hq]
      refine reaches_setParent hf hk (relinked_setParent hf.toWellFormed hk hup) hg ?_
      by_cases hks : (f.node k).scene = some s
      · right
        rw [hf.scene_setParent hk hp hkp]
        by_contra hps
        exact hs ⟨hks, hps⟩
      · exact .inl hks
  | addRoot t k =>
    obtain ⟨rfl, hk⟩ := he
    refine reaches_addRoot hf hk ?_
    by_contra hno
    rw [not_or, not_and_or, not_not] at hno
    exact hs ⟨rfl, hno⟩
  | rename k name => exact reaches_rename hf he name
  | destroy k => exact reaches_destroy hf he

/-! ### What the scene shows afterwards -/

/-- A node that the scene shows has been there under the same path, or the scene is told of it. -/
lemma Reaches.fullPath_eq (h : Reaches f g s) (hg : g.Housed s) (hn : n ∈ g.walk s) :
    (n ∈ f.walk s ∧ g.fullPath n = f.fullPath n) ∨
      ∃ c, g.changes = [c] ++ f.changes ∧ c.scene = s ∧ n ∈ c.affected := by
  obtain ⟨k, ht, htold⟩ := h
  by_cases hkn : f.Within k n
  · rcases htold with ⟨c, hchanges, hs, hall⟩ | ⟨-, hk⟩
    · exact .inr ⟨c, hchanges, hs, hall n hkn⟩
    · exact absurd (hg.mem_walk_above hn (ht.within_iff.mpr hkn)) hk
  · have hnode := ht.isNode_of_not_within (hg.isNode_of_mem_walk hn) hkn
    exact .inl ⟨(ht.mem_walk_iff hnode hkn).mp hn, ht.fullPath_eq hnode hkn⟩

/-- The scene shows the same nodes, with the same names and the same nodes below them. -/
structure SameIn (f g : Forest) (s : SceneId) : Prop where
  walk : ∀ n, n ∈ g.walk s ↔ n ∈ f.walk s
  name : ∀ n ∈ f.walk s, (g.node n).name = (f.node n).name
  within : ∀ n ∈ f.walk s, ∀ d, g.Within n d ↔ f.Within n d

/-- A scene that is not told of an edit shows what it showed before. -/
lemma Reaches.sameIn (h : Reaches f g s) (hf : f.Housed s) (hg : g.Housed s) :
    SameIn f g s ∨ ∃ c, g.changes = [c] ++ f.changes ∧ c.scene = s := by
  obtain ⟨k, ht, ⟨c, hchanges, hs, -⟩ | ⟨hkf, hkg⟩⟩ := h
  · exact .inr ⟨c, hchanges, hs⟩
  · have hfar : ∀ n ∈ f.walk s, ¬ f.Within k n := fun n hn h => hkf (hf.mem_walk_above hn h)
    have hnear : ∀ n ∈ g.walk s, ¬ f.Within k n :=
      fun n hn h => hkg (hg.mem_walk_above hn (ht.within_iff.mpr h))
    have hback : ∀ n ∈ g.walk s, n ∈ f.walk s := by
      intro n hn
      have hnode := ht.isNode_of_not_within (hg.isNode_of_mem_walk hn) (hnear n hn)
      exact (ht.mem_walk_iff hnode (hnear n hn)).mp hn
    have hforth : ∀ n ∈ f.walk s, n ∈ g.walk s := fun n hn =>
      (ht.mem_walk_iff (hf.isNode_of_mem_walk hn) (hfar n hn)).mpr hn
    refine .inl ⟨fun n => ⟨hback n, hforth n⟩, fun n hn => ht.name n ?_, fun n hn d => ?_⟩
    · rintro rfl
      exact hfar n hn .refl
    · have hiff : d ∈ f.walk s → (g.Within n d ↔ f.Within n d) := fun hd =>
        ht.within_iff_of_not_within (hf.isNode_of_mem_walk hd) (hfar d hd)
      constructor
      · intro hnd
        exact (hiff (hback d (hg.mem_walk_of_within (hforth n hn) hnd))).mp hnd
      · intro hnd
        exact (hiff (hf.mem_walk_of_within hn hnd)).mpr hnd

end SceneBindings.Forest
