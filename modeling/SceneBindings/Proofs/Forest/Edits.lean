import Mathlib.Tactic.Lemma
import SceneBindings.Forest.Basic

/-!
The edits of a forest as data, and the first thing that holds of all of them: a node that was
destroyed stays destroyed.
-/

namespace SceneBindings.Forest

inductive Edit where
  | addScene (name : String)
  | create (name : String) (components : List Component) (active : Bool)
  | setParent (k : Key) (parent : Option Key)
  | addRoot (s : SceneId) (k : Key)
  | rename (k : Key) (name : String)
  | destroy (k : Key)

def edit (f : Forest) : Edit → Forest
  | .addScene name => (f.addScene name).1
  | .create name components active => (f.create (Node.new name components active)).1
  | .setParent k parent => f.setParent k parent
  | .addRoot s k => f.addRoot s k
  | .rename k name => f.rename k name
  | .destroy k => f.destroy k

def IsAlive (f : Forest) (k : Key) : Prop := (f.node k).destroyed = false

instance (f : Forest) (k : Key) : Decidable (f.IsAlive k) := inferInstanceAs (Decidable (_ = _))

lemma node_modify (f : Forest) (k j : Key) (g : Node → Node) :
    (f.modify k g).node j = if j = k ∧ (f.node? k).isSome then g (f.node k) else f.node j := by
  cases k with
  | zero => simp [modify, node?]
  | succ i =>
    cases j with
    | zero => simp [node, node?]
    | succ j =>
      simp only [modify, node, node?, List.getElem?_modify, Nat.succ.injEq]
      by_cases hij : i = j
      · subst hij
        cases f.nodes[i]? <;> simp
      · have hji : ¬ j = i := fun h => hij h.symm
        cases f.nodes[j]? <;> simp [hij, hji]

/-- Whoever is alive in the second forest was alive in the first. -/
def NoneRevived (f g : Forest) : Prop := ∀ k, g.IsAlive k → f.IsAlive k

namespace NoneRevived

variable {f g h : Forest}

lemma refl (f : Forest) : f.NoneRevived f := fun _ hk => hk

lemma trans (hfg : f.NoneRevived g) (hgh : g.NoneRevived h) : f.NoneRevived h :=
  fun k hk => hfg k (hgh k hk)

lemma of_nodes (e : g.nodes = f.nodes) : f.NoneRevived g := by
  intro k hk
  have hnode : g.node k = f.node k := by
    cases k <;> simp [node, node?, e]
  rwa [IsAlive, ← hnode]

lemma modify (k : Key) {u : Node → Node} (hu : ∀ n, (u n).destroyed = false → n.destroyed = false) :
    f.NoneRevived (f.modify k u) := by
  intro j hj
  rw [IsAlive, node_modify] at hj
  split at hj
  · next hjk => rw [hjk.1]; exact hu _ hj
  · exact hj

lemma foldl {α : Type} {step : Forest → α → Forest}
    (hstep : ∀ (f : Forest) a, f.NoneRevived (step f a)) (as : List α) (f : Forest) :
    f.NoneRevived (as.foldl step f) := by
  induction as generalizing f with
  | nil => exact refl f
  | cons a as ih => exact (hstep f a).trans (ih _)

lemma announce (f : Forest) (k : Key) : f.NoneRevived (f.announce k) := by
  apply of_nodes
  rw [Forest.announce]
  split <;> rfl

lemma unlink (f : Forest) (k : Key) : f.NoneRevived (f.unlink k) := by
  rw [Forest.unlink]
  split
  · exact modify _ fun n hn => hn
  · exact of_nodes rfl
  · exact refl f

lemma assignScene (f : Forest) (k : Key) (s : Option SceneId) :
    f.NoneRevived (f.assignScene k s) := by
  refine foldl (fun _ d => ?_) _ f
  exact modify d fun _ hn => hn

lemma setActive (f : Forest) (k : Key) (active : Bool) : f.NoneRevived (f.setActive k active) :=
  modify _ fun _ hn => hn

lemma setParent (f : Forest) (k : Key) (parent : Option Key) :
    f.NoneRevived (f.setParent k parent) := by
  rw [Forest.setParent]
  split
  · exact refl f
  · have hlinked : f.NoneRevived ((f.unlink k).modify k fun n => { n with parent }) :=
      (unlink f k).trans (modify _ fun _ hn => hn)
    refine hlinked.trans ?_
    cases parent with
    | none => exact announce _ k
    | some p =>
      refine NoneRevived.trans ?_ (announce _ k)
      refine NoneRevived.trans ?_ (assignScene _ k _)
      exact modify p fun _ hn => hn

lemma addRoot (f : Forest) (s : SceneId) (k : Key) : f.NoneRevived (f.addRoot s k) :=
  ((setParent f k none).trans (assignScene _ k (some s))).trans (of_nodes rfl)

lemma rename (f : Forest) (k : Key) (name : String) : f.NoneRevived (f.rename k name) := by
  rw [Forest.rename]
  split
  · exact refl f
  · refine NoneRevived.trans ?_ (announce _ k)
    exact modify k fun _ hn => hn

lemma destroy (f : Forest) (k : Key) : f.NoneRevived (f.destroy k) := by
  rw [Forest.destroy]
  split
  · exact refl f
  · refine ((announce f k).trans (unlink _ k)).trans ?_
    refine NoneRevived.trans ?_ (modify k fun _ hn => hn)
    refine foldl (fun _ d => ?_) _ _
    exact modify d fun _ hn => absurd hn (by simp)

lemma create (f : Forest) (n : Node) : f.NoneRevived (f.create n).1 := by
  intro k hk
  cases k with
  | zero => rfl
  | succ i =>
    rcases Nat.lt_trichotomy i f.nodes.length with hi | hi | hi
    · simpa [IsAlive, Forest.create, node, node?, List.getElem?_append_left hi] using hk
    · simp [IsAlive, node, node?, hi, Node.new]
    · simp [IsAlive, node, node?, List.getElem?_eq_none (Nat.le_of_lt hi), Node.new]

lemma edit (f : Forest) (e : Edit) : f.NoneRevived (f.edit e) := by
  cases e with
  | addScene name => exact of_nodes rfl
  | create name components active => exact create f _
  | setParent k parent => exact setParent f k parent
  | addRoot s k => exact addRoot f s k
  | rename k name => exact rename f k name
  | destroy k => exact destroy f k

end NoneRevived

/-- Renaming destroys no node. -/
lemma isAlive_rename {f : Forest} {j : Key} (h : f.IsAlive j) (k : Key) (name : String) :
    (f.rename k name).IsAlive j := by
  rw [Forest.rename]
  split
  · exact h
  · have hnodes : ∀ g : Forest, (g.announce k).nodes = g.nodes := by
      intro g
      rw [Forest.announce]
      split <;> rfl
    refine NoneRevived.of_nodes (hnodes _).symm j ?_
    rw [IsAlive, node_modify]
    split
    · next hjk => exact hjk.1 ▸ h
    · exact h

end SceneBindings.Forest
