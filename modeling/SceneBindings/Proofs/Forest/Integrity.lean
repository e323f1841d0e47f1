import SceneBindings.Proofs.Forest.Housing
import SceneBindings.Proofs.Forest.Traversal

/-!
What a scene is like after any edits of nodes that are alive. A tree is destroyed as a whole and
leaves the scene with that, so the scene shows none but living nodes, each of them once.
-/

namespace SceneBindings.Forest

/-- A scene in order in which no tree is destroyed in part, and no root at all. -/
structure Intact (f : Forest) (s : SceneId) : Prop extends Housed f s where
  whole : ∀ p c, f.IsChild p c → (f.node c).destroyed = (f.node p).destroyed
  alive : ∀ r ∈ f.roots s, f.IsAlive r

/-- The nodes that an edit is given. -/
def Edit.nodes : Edit → List Key
  | addScene _ | create _ _ _ => []
  | setParent k none | addRoot _ k | rename k _ | destroy k => [k]
  | setParent k (some p) => [k, p]

/-- An edit that is allowed and given no destroyed node. -/
def AllowsLive (f : Forest) (s : SceneId) (e : Edit) : Prop :=
  f.Allows s e ∧ ∀ k ∈ e.nodes, f.IsAlive k

/-- All edits of a list, each in the forest that the ones before it leave. -/
def AllowsLiveAll (f : Forest) (s : SceneId) : List Edit → Prop
  | [] => True
  | e :: es => f.AllowsLive s e ∧ (f.edit e).AllowsLiveAll s es

variable {f g : Forest} {s t : SceneId} {c j k p r : Key} {up : Option Key}

/-! ### Links after an edit -/

lemma isChild_setParent (hf : f.WellFormed) (hk : f.IsNode k) (hup : ∀ q, up = some q → f.IsNode q)
    (h : (f.setParent k up).IsChild p c) : f.IsChild p c ∨ c = k ∧ up = some p := by
  by_cases hne : (f.node k).parent = up
  · rw [setParent, if_pos hne] at h
    exact .inl h
  · rw [(relinked_setParent hf hk hup hne).isChild_iff] at h
    split at h
    · next hck => exact .inr ⟨hck, h⟩
    · exact .inl h

lemma mem_roots_setParent (hf : f.WellFormed) (hk : f.IsNode k)
    (hup : ∀ q, up = some q → f.IsNode q) (h : r ∈ (f.setParent k up).roots t) : r ∈ f.roots t := by
  by_cases hne : (f.node k).parent = up
  · rwa [setParent, if_pos hne] at h
  · exact (relinked_setParent hf hk hup hne).mem_roots h

/-! ### What is destroyed -/

lemma destroyed_setParent (f : Forest) (k : Key) (up : Option Key) (j : Key) :
    ((f.setParent k up).node j).destroyed = (f.node j).destroyed :=
  node_setParent_keeps (·.destroyed) (fun _ _ _ _ => rfl) f k up j

/-- A node that is taken from its parent's children still walks over all that is below it. -/
lemma mem_subtree_unlink (hf : f.WellFormed) (hk : f.IsNode k) :
    j ∈ ((f.announce k).unlink k).subtree k ↔ f.Within k j := by
  have hhang : Relinked f (f.hang k none) k none :=
    relinked_hang hf hk fun q hq => absurd hq.symm (Option.some_ne_none q)
  have hwf := hhang.wellFormed hf fun q hq => absurd hq.symm (Option.some_ne_none q)
  have hchildren : ∀ i, (((f.announce k).unlink k).node i).children =
      ((f.hang k none).node i).children := by
    intro i
    rw [children_unlink (wellFormed_announce hf k), node_announce, hhang.children,
      if_neg (Option.some_ne_none i).symm, List.append_nil]
  have hlength : ((f.announce k).unlink k).nodes.length = (f.hang k none).nodes.length := by
    rw [length_unlink, nodes_announce, hhang.length]
  rw [subtree, subtreeTo_of_children hchildren, hlength, ← hhang.within_iff,
    ← hwf.mem_subtree (hhang.isNode_iff.mpr hk), subtree]

lemma destroyed_destroy_iff (hf : f.WellFormed) (hk : f.IsNode k) (halive : f.IsAlive k) :
    ((f.destroy k).node j).destroyed = true ↔ f.Within k j ∨ (f.node j).destroyed = true := by
  have hnodes : ∀ d ∈ ((f.announce k).unlink k).subtree k, ((f.announce k).unlink k).IsNode d := by
    intro d hd
    have hlength : ((f.announce k).unlink k).nodes.length = f.nodes.length := by
      rw [length_unlink, nodes_announce]
    exact (isNode_of_length hlength).mpr (((mem_subtree_unlink hf hk).mp hd).isNode hk)
  rw [destroy, if_neg (by rw [halive]; exact Bool.false_ne_true), node_modify_keeps (·.destroyed),
    node_foldl_modify_sets (·.destroyed) true (fun _ => rfl) j _ _ hnodes,
    node_unlink_keeps (·.destroyed) fun _ _ => rfl, node_announce]
  split
  · next hj => exact iff_of_true rfl (.inl ((mem_subtree_unlink hf hk).mp hj))
  · next hj => exact (or_iff_right fun h => hj ((mem_subtree_unlink hf hk).mpr h)).symm

/-! ### One edit -/

namespace Intact

/-- An edit that destroys nothing may link what is alive, and make a root of it. -/
lemma of_keeps (h : f.Intact s) (hg : g.Housed s)
    (hdestroyed : ∀ j, (g.node j).destroyed = (f.node j).destroyed)
    (hchild : ∀ p c, g.IsChild p c → f.IsChild p c ∨ f.IsAlive c ∧ f.IsAlive p)
    (hroots : ∀ r ∈ g.roots s, r ∈ f.roots s ∨ f.IsAlive r) : g.Intact s where
  toHoused := hg
  whole p c hpc := by
    rw [hdestroyed, hdestroyed]
    rcases hchild p c hpc with hpc | ⟨hc, hp⟩
    · exact h.whole p c hpc
    · exact hc.trans hp.symm
  alive r hr := by
    rw [IsAlive, hdestroyed]
    rcases hroots r hr with hr | hr
    · exact h.alive r hr
    · exact hr

lemma setParent (h : f.Intact s) (hg : (f.setParent k up).Housed s) (hk : f.IsNode k)
    (hup : ∀ q, up = some q → f.IsNode q) (hlive : f.IsAlive k)
    (hlives : ∀ q, up = some q → f.IsAlive q) : (f.setParent k up).Intact s := by
  refine h.of_keeps hg (destroyed_setParent f k up) (fun p c hpc => ?_) fun r hr => ?_
  · rcases isChild_setParent h.toWellFormed hk hup hpc with hpc | ⟨rfl, hp⟩
    · exact .inl hpc
    · exact .inr ⟨hlive, hlives p hp⟩
  · exact .inl (mem_roots_setParent h.toWellFormed hk hup hr)

lemma addRoot (h : f.Intact s) (hk : f.IsNode k) (hlive : f.IsAlive k) :
    (f.addRoot s k).Intact s := by
  have hup : ∀ q, none = some q → f.IsNode q := fun q hq => absurd hq.symm (Option.some_ne_none q)
  refine h.of_keeps (h.toHoused.addRoot hk) (fun j => ?_) (fun p c hpc => ?_) fun r hr => ?_
  · rw [node_addRoot_keeps (·.destroyed) fun _ _ => rfl, destroyed_setParent]
  · rw [IsChild, node_addRoot_keeps (·.parent) fun _ _ => rfl] at hpc
    rcases isChild_setParent h.toWellFormed hk hup hpc with hpc | ⟨-, hp⟩
    · exact .inl hpc
    · cases hp
  · rcases (mem_roots_addRoot (h.setParent_none hk).known s r).mp hr with hr | ⟨-, rfl⟩
    · exact .inl (mem_roots_setParent h.toWellFormed hk hup hr)
    · exact .inr hlive

/-- All that is below the node shares its end, and nothing else does. -/
lemma destroy (h : f.Intact s) (hk : f.IsNode k) (hlive : f.IsAlive k) :
    (f.destroy k).Intact s := by
  have hiff := fun j => @destroyed_destroy_iff f j k h.toWellFormed hk hlive
  have hlinks := relinked_destroy h.toWellFormed hk hlive
  have hg := h.toHoused.destroy hk
  refine ⟨hg, fun p c hpc => ?_, fun r hr => ?_⟩
  · rw [hlinks.isChild_iff] at hpc
    split at hpc
    · cases hpc
    · next hck =>
      have hwithin : f.Within k c ↔ f.Within k p :=
        ⟨within_parent hpc hck, fun hp => hp.tail hpc⟩
      rw [Bool.eq_iff_iff, hiff, hiff, hwithin, h.whole p c hpc]
  · have hr' := hlinks.mem_roots hr
    have hout : ¬ f.Within k r := by
      intro hin
      obtain rfl := eq_of_within_root (h.parentless r hr') hin
      have hgone := hlinks.roots s
      rw [if_pos ⟨h.parentless r hr', h.housed r hr'⟩] at hgone
      rw [hgone] at hr
      exact h.nodupRoots.not_mem_erase hr
    refine eq_false_of_ne_true fun hdead => ?_
    rcases (hiff r).mp hdead with hin | hold
    · exact hout hin
    · exact Bool.false_ne_true ((h.alive r hr').symm.trans hold)

lemma addScene (h : f.Intact s) (name : String) : (f.addScene name).1.Intact s := by
  refine h.of_keeps (h.toHoused.addScene name) (fun _ => rfl) (fun p c hpc => .inl hpc) ?_
  intro r hr
  rw [roots_addScene] at hr
  exact .inl hr

lemma create (h : f.Intact s) (name : String) (components : List Component) (active : Bool) :
    (f.create (Node.new name components active)).1.Intact s := by
  refine h.of_keeps (h.toHoused.create name components active)
    (node_create_keeps (·.destroyed) f _ rfl) (fun p c hpc => .inl ?_) fun r hr => .inl hr
  rwa [IsChild, node_create_keeps (·.parent) f (Node.new name components active) rfl c] at hpc

lemma rename (h : f.Intact s) (k : Key) (name : String) : (f.rename k name).Intact s := by
  refine h.of_keeps (h.toHoused.rename k name)
    (node_rename_keeps (·.destroyed) (fun _ _ => rfl) f k name) (fun p c hpc => .inl ?_)
    fun r hr => .inl ?_
  · rwa [IsChild, node_rename_keeps (·.parent) fun _ _ => rfl] at hpc
  · rwa [roots_of_scenes (scenes_rename f k name)] at hr

/-- **An edit of living nodes keeps a scene intact.** -/
theorem edit (h : f.Intact s) {e : Edit} (he : f.AllowsLive s e) : (f.edit e).Intact s := by
  obtain ⟨hallows, hlive⟩ := he
  have hg := h.toHoused.edit hallows
  cases e with
  | addScene name => exact h.addScene name
  | create name components active => exact h.create name components active
  | setParent k up =>
    cases up with
    | none =>
      exact h.setParent hg hallows (fun q hq => by cases hq) (hlive k List.mem_cons_self)
        fun q hq => by cases hq
    | some p =>
      refine h.setParent hg hallows.1 (fun q hq => ?_) (hlive k List.mem_cons_self) fun q hq => ?_
      · exact Option.some.inj hq ▸ hallows.2.1
      · exact Option.some.inj hq ▸ hlive p (List.mem_cons_of_mem k List.mem_cons_self)
  | addRoot t k =>
    obtain ⟨rfl, hk⟩ := hallows
    exact h.addRoot hk (hlive k List.mem_cons_self)
  | rename k name => exact h.rename k name
  | destroy k => exact h.destroy hallows (hlive k List.mem_cons_self)

theorem edits {es : List Edit} (h : f.Intact s) (hes : f.AllowsLiveAll s es) :
    (es.foldl Forest.edit f).Intact s := by
  induction es generalizing f with
  | nil => exact h
  | cons e es ih => exact ih (h.edit hes.1) hes.2

end Intact

/-- A new scene holds nothing that could be destroyed. -/
lemma intact_addScene_empty (name : String) : (empty.addScene name).1.Intact 0 where
  toHoused := housed_addScene_empty name
  whole p c hpc := by
    have hc := hpc.isNode
    rw [isNode_iff] at hc
    exact absurd (hc.1.trans hc.2) (Nat.not_succ_le_zero 0)
  alive := nofun

/-! ### The whole -/

/-- What holds of a scene and its nodes, and of the loops that go through them. -/
structure InOrder (f : Forest) (s : SceneId) : Prop where
  /-- A node stands among the children of its parent once, and nowhere else. -/
  listed : ∀ p c, (f.node p).children.count c = if (f.node c).parent = some p then 1 else 0
  nodupRoots : (f.roots s).Nodup
  parentless : ∀ r ∈ f.roots s, (f.node r).parent = none
  nodupWalk : (f.walk s).Nodup
  /-- The walk is the traversal of the roots. -/
  traverses : f.Traverses (f.roots s) (f.walk s)
  shown : ∀ k ∈ f.walk s, (f.node k).scene = some s ∧ f.IsAlive k
  /-- From every node, the loop up and the loop down end with what the forest says. -/
  climbs : ∀ k, f.IsNode k → f.Climbs k (f.chain k)
  pops : ∀ k, f.IsNode k → f.Pops [k] (f.subtree k)

lemma WellFormed.count_children (hf : f.WellFormed) (p c : Key) :
    (f.node p).children.count c = if (f.node c).parent = some p then 1 else 0 := by
  split
  · next h => exact List.count_eq_one_of_mem (hf.nodup p) ((hf.children p c).mpr h)
  · next h => exact List.count_eq_zero.mpr fun hc => h ((hf.children p c).mp hc)

namespace Intact

lemma alive_of_within (h : f.Intact s) (hr : f.IsAlive r) (hd : f.Within r k) : f.IsAlive k := by
  induction hd with
  | refl => exact hr
  | tail _ hc ih => exact (h.whole _ _ hc).trans ih

lemma inOrder (h : f.Intact s) : f.InOrder s where
  listed := h.count_children
  nodupRoots := h.nodupRoots
  parentless := h.parentless
  nodupWalk := h.nodup_walk h.nodupRoots h.parentless
  traverses := h.traverses_walk s
  shown k hk := by
    obtain ⟨r, hr, hrk⟩ := h.mem_walk.mp hk
    exact ⟨h.toHoused.scene_of_mem_walk hk, h.alive_of_within (h.alive r hr) hrk⟩
  climbs k hk := h.climbs_chain hk
  pops k hk := h.pops_subtree hk

end Intact

/-- **The forest stays in order** under any edits of living nodes that hang none below itself. -/
theorem inOrder_edits (name : String) (es : List Edit)
    (hes : (empty.addScene name).1.AllowsLiveAll 0 es) :
    (es.foldl Forest.edit (empty.addScene name).1).InOrder 0 :=
  ((intact_addScene_empty name).edits hes).inOrder

/-- Two nodes below a third one, which is made a root; one of them leaves and one is destroyed. -/
def sampleEdits : List Edit :=
  [.create "Menu" [] true, .create "Play" [] true, .create "Quit" [] true, .setParent 2 (some 1),
    .addRoot 0 1, .setParent 3 (some 1), .rename 1 "Main", .setParent 2 none, .destroy 3]

theorem inOrder_edits_of_sample :
    (empty.addScene "Scene").1.AllowsLiveAll 0 sampleEdits ∧
      (sampleEdits.foldl Forest.edit (empty.addScene "Scene").1).InOrder 0 := by
  have hes : (empty.addScene "Scene").1.AllowsLiveAll 0 sampleEdits := by
    refine ⟨⟨trivial, by decide⟩, ⟨trivial, by decide⟩, ⟨trivial, by decide⟩, ⟨?_, by decide⟩,
      ⟨⟨rfl, by decide⟩, by decide⟩, ⟨?_, by decide⟩,
      ⟨show IsNode _ 1 by decide, by decide⟩, ⟨show IsNode _ 2 by decide, by decide⟩,
      ⟨show IsNode _ 3 by decide, by decide⟩, trivial⟩
    · exact allows_setParent (by decide) (by decide) rfl (by decide)
    · exact allows_setParent (by decide) (by decide) rfl (by decide)
  exact ⟨hes, inOrder_edits "Scene" sampleEdits hes⟩

end SceneBindings.Forest
