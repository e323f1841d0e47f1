import SceneBindings.Proofs.Forest.Descent

/-!
The loops that go through a forest. One takes nodes off a stack and puts their children there, one
climbs from parent to parent. In a well-formed forest both end, and the first one visits what the
recursive traversal visits, each node once.
-/

namespace SceneBindings.Forest

/-- The recursive traversal of some nodes: each is visited before all that is below it, and this
before the next one. -/
inductive Traverses (f : Forest) : List Key → List Key → Prop where
  | nil : Traverses f [] []
  | cons {k : Key} {ks below rest : List Key} :
    Traverses f (f.node k).children below → Traverses f ks rest →
      Traverses f (k :: ks) (k :: (below ++ rest))

/-- The loop over a stack, whose top stands first: the top is visited, and its children take its
place. The loop ends when nothing is left. -/
inductive Pops (f : Forest) : List Key → List Key → Prop where
  | nil : Pops f [] []
  | cons {k : Key} {stack out : List Key} :
    Pops f ((f.node k).children ++ stack) out → Pops f (k :: stack) (k :: out)

/-- The loop that goes from a node to its parent, and ends at a node without one. -/
inductive Climbs (f : Forest) : Key → List Key → Prop where
  | root {k : Key} : (f.node k).parent = none → Climbs f k [k]
  | step {k p : Key} {up : List Key} : f.IsChild p k → Climbs f p up → Climbs f k (k :: up)

variable {f : Forest} {k : Key} {ks stack out out' : List Key}

/-- The stack visits what stands on top of it like the recursion, and then the rest. -/
lemma Traverses.pops (h : f.Traverses ks out) (hstack : f.Pops stack out') :
    f.Pops (ks ++ stack) (out ++ out') := by
  induction h generalizing stack out' with
  | nil => exact hstack
  | @cons k ks below rest _ _ ihbelow ihrest =>
    rw [List.cons_append, List.cons_append, List.append_assoc]
    exact .cons (ihbelow (ihrest hstack))

lemma Traverses.pops_all (h : f.Traverses ks out) : f.Pops ks out := by
  have hall := h.pops .nil
  rwa [List.append_nil, List.append_nil] at hall

namespace WellFormed

variable (hf : f.WellFormed)
include hf

lemma climbs_chain (hk : f.IsNode k) : f.Climbs k (f.chain k) := by
  induction k using hf.ends.induction with
  | _ k ih =>
    cases hp : (f.node k).parent with
    | none =>
      rw [hf.chain_of_root hk hp]
      exact .root hp
    | some p =>
      have hchild : f.IsChild p k := hp
      rw [hf.chain_of_child hchild]
      exact .step hchild (ih p hchild (hf.isNode_parent hchild))

/-- With a bound that reaches down to the deepest nodes, the bounded walk is the recursion. The
induction is on the bound, which every generation uses up by one. -/
lemma traverses_subtreeTo {n : Nat} (hks : ∀ k ∈ ks, f.IsNode k ∧ f.nodes.length ≤ f.depth k + n) :
    f.Traverses ks (ks.flatMap (f.subtreeTo n)) := by
  induction n generalizing ks with
  | zero =>
    cases ks with
    | nil => exact .nil
    | cons k ks =>
      obtain ⟨hk, hbound⟩ := hks k List.mem_cons_self
      have hdepth := hf.depth_lt hk
      omega
  | succ n ih =>
    induction ks with
    | nil => exact .nil
    | cons k ks ihks =>
      rw [List.forall_mem_cons] at hks
      rw [List.flatMap_cons, subtreeTo, List.cons_append]
      refine .cons (ih fun c hc => ?_) (ihks hks.2)
      have hchild := (hf.children k c).mp hc
      have hdepth := hf.depth_child hchild
      exact ⟨hchild.isNode, by omega⟩

lemma traverses_subtree (hks : ∀ k ∈ ks, f.IsNode k) : f.Traverses ks (ks.flatMap f.subtree) :=
  hf.traverses_subtreeTo fun k hk => ⟨hks k hk, Nat.le_add_left _ _⟩

lemma pops_subtree (hk : f.IsNode k) : f.Pops [k] (f.subtree k) := by
  have h := (hf.traverses_subtree (List.forall_mem_singleton.mpr hk)).pops_all
  rwa [List.flatMap_singleton] at h

lemma traverses_walk (s : SceneId) : f.Traverses (f.roots s) (f.walk s) :=
  hf.traverses_subtree (hf.roots s)

/-! ### Each node once -/

lemma nodup_subtreeTo (n : Nat) (k : Key) : (f.subtreeTo n k).Nodup := by
  induction n generalizing k with
  | zero => exact .nil
  | succ n ih =>
    rw [subtreeTo, List.nodup_cons]
    constructor
    · intro hk
      obtain ⟨c, hc, hkc⟩ := List.mem_flatMap.mp hk
      exact hf.not_below_self k (.head' ((hf.children k c).mp hc) (hf.within_of_mem_subtreeTo hkc))
    · refine List.nodup_flatMap.mpr ⟨fun c _ => ih c, ?_⟩
      refine (hf.nodup k).imp_of_mem fun {a b} ha hb hab d had hbd => ?_
      have ha := (hf.children k a).mp ha
      have hb := (hf.children k b).mp hb
      exact not_within_of_apart (hf.not_within_sibling ha hb hab)
        (hf.not_within_sibling hb ha hab.symm) (hf.within_of_mem_subtreeTo had)
        (hf.within_of_mem_subtreeTo hbd) .refl

lemma nodup_walk {s : SceneId} (hroots : (f.roots s).Nodup)
    (hparentless : ∀ r ∈ f.roots s, (f.node r).parent = none) : (f.walk s).Nodup := by
  refine List.nodup_flatMap.mpr ⟨fun r _ => hf.nodup_subtreeTo _ r, ?_⟩
  refine hroots.imp_of_mem fun {a b} ha hb hab d had hbd => ?_
  exact not_within_of_apart (fun h => hab (eq_of_within_root (hparentless b hb) h).symm)
    (fun h => hab (eq_of_within_root (hparentless a ha) h)) (hf.within_of_mem_subtreeTo had)
    (hf.within_of_mem_subtreeTo hbd) .refl

end WellFormed

end SceneBindings.Forest
