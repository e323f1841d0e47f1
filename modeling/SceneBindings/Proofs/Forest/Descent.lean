import Mathlib.Data.List.Nodup
import Mathlib.Data.List.Perm.Subperm
import Mathlib.Logic.Relation
import Mathlib.Order.WellFounded
import SceneBindings.Proofs.Forest.Edits

/-!
Who stands below whom. In a well-formed forest the bounded walks up and down miss nothing: the chain
of a node holds its ancestors, a subtree all descendants, and a scene's walk all nodes below its
roots.
-/

namespace SceneBindings.Forest

def IsNode (f : Forest) (k : Key) : Prop := (f.node? k).isSome = true

instance (f : Forest) (k : Key) : Decidable (f.IsNode k) := inferInstanceAs (Decidable (_ = _))

def IsChild (f : Forest) (p c : Key) : Prop := (f.node c).parent = some p

/-- The second node is the first or stands somewhere below it. -/
abbrev Within (f : Forest) : Key → Key → Prop := Relation.ReflTransGen f.IsChild

/-- The second node stands somewhere below the first. -/
abbrev Below (f : Forest) : Key → Key → Prop := Relation.TransGen f.IsChild

/-- Parents and children agree, every chain of parents ends, and scenes have nodes as roots. -/
structure WellFormed (f : Forest) : Prop where
  children : ∀ p c, c ∈ (f.node p).children ↔ f.IsChild p c
  nodup : ∀ p, (f.node p).children.Nodup
  ends : WellFounded f.IsChild
  roots : ∀ s, ∀ r ∈ f.roots s, f.IsNode r

variable {f : Forest} {a b c d k p x y : Key}

lemma isNode_iff {n : Nat} : f.IsNode n ↔ 1 ≤ n ∧ n ≤ f.nodes.length := by
  cases n with
  | zero => simp [IsNode, node?]
  | succ i =>
    have hnode : f.IsNode (i + 1) ↔ i < f.nodes.length := by simp [IsNode, node?]
    rw [hnode]
    omega

lemma node_of_not_isNode (h : ¬ f.IsNode k) : f.node k = Node.new "" [] true := by
  have hnone : f.node? k = none := by simpa [IsNode] using h
  rw [node, hnone, Option.getD_none]

lemma IsChild.isNode (h : f.IsChild p c) : f.IsNode c := by
  by_contra hc
  rw [IsChild, node_of_not_isNode hc] at h
  cases h

lemma Within.isNode (h : f.Within a d) (ha : f.IsNode a) : f.IsNode d := by
  cases h with
  | refl => exact ha
  | tail _ h => exact h.isNode

/-- A node is an ancestor or itself of all nodes below one of its children, and of no others. -/
lemma within_iff : f.Within k d ↔ d = k ∨ ∃ c, f.IsChild k c ∧ f.Within c d := by
  have hhead : f.Within k d ↔ k = d ∨ ∃ c, f.IsChild k c ∧ f.Within c d :=
    Relation.ReflTransGen.cases_head_iff
  rw [hhead, eq_comm]

lemma below_iff : f.Below k d ↔ ∃ c, f.IsChild k c ∧ f.Within c d :=
  Relation.TransGen.head'_iff

lemma within_iff_below : f.Within k d ↔ d = k ∨ f.Below k d := by
  rw [within_iff, below_iff]

lemma within_parent (hc : f.IsChild p c) (hck : c ≠ k) (h : f.Within k c) : f.Within k p := by
  obtain ⟨q, hkq, hqc⟩ := Relation.TransGen.tail'_iff.mp ((within_iff_below.mp h).resolve_left hck)
  obtain rfl : p = q := Option.some.inj (hc.symm.trans hqc)
  exact hkq

lemma eq_of_within_root (hd : (f.node d).parent = none) (h : f.Within k d) : d = k := by
  rcases within_iff_below.mp h with h | h
  · exact h
  · obtain ⟨p, -, hpd⟩ := Relation.TransGen.tail'_iff.mp h
    cases hd.symm.trans hpd

/-- Of two nodes above a third, one stands above the other. -/
lemma within_total (ha : f.Within a d) (hb : f.Within b d) : f.Within a b ∨ f.Within b a := by
  induction ha with
  | refl => exact .inr hb
  | @tail p d hap hchild ih =>
    by_cases hdb : d = b
    · exact .inl (hdb ▸ hap.tail hchild)
    · exact ih (within_parent hchild hdb hb)

/-- What stands below separate nodes is separate. -/
lemma not_within_of_apart (hab : ¬ f.Within a b) (hba : ¬ f.Within b a) (hx : f.Within a x)
    (hy : f.Within b y) : ¬ f.Within x y :=
  fun h => (within_total (hx.trans h) hy).elim hab hba

lemma within_of_mem_chainUpTo {n : Nat} (h : a ∈ f.chainUpTo n k) : f.Within a k := by
  induction n generalizing k with
  | zero => cases h
  | succ n ih =>
    rw [chainUpTo] at h
    rcases List.mem_cons.mp h with rfl | h
    · exact .refl
    · cases hp : (f.node k).parent with
      | none => simp [hp] at h
      | some p =>
        rw [hp] at h
        exact (ih h).tail hp

lemma pairwise_chainUpTo (n : Nat) (k : Key) :
    (f.chainUpTo n k).Pairwise fun d a => f.Below a d := by
  induction n generalizing k with
  | zero => exact .nil
  | succ n ih =>
    rw [chainUpTo]
    cases hp : (f.node k).parent with
    | none => exact .cons nofun .nil
    | some p => exact .cons (fun a ha => .tail' (within_of_mem_chainUpTo ha) hp) (ih p)

lemma chainUpTo_eq_take {m n : Nat} (h : m ≤ n) (k : Key) :
    f.chainUpTo m k = (f.chainUpTo n k).take m := by
  induction m generalizing n k with
  | zero => rw [chainUpTo, List.take_zero]
  | succ m ih =>
    obtain ⟨n, rfl⟩ : ∃ l, n = l + 1 := ⟨n - 1, by omega⟩
    rw [chainUpTo, chainUpTo, List.take_succ_cons]
    cases (f.node k).parent with
    | none => rw [List.take_nil]
    | some p =>
      dsimp only
      rw [← ih (Nat.le_of_succ_le_succ h)]

namespace WellFormed

variable (hf : f.WellFormed)
include hf

lemma isNode_parent (h : f.IsChild p c) : f.IsNode p := by
  by_contra hp
  have hc := (hf.children p c).mpr h
  rw [node_of_not_isNode hp] at hc
  cases hc

lemma not_below_self (k : Key) : ¬ f.Below k k := by
  intro h
  exact hf.ends.transGen.irrefl.irrefl k h

lemma not_within_sibling (hc : f.IsChild k c) (hd : f.IsChild k d) (hne : c ≠ d) :
    ¬ f.Within c d :=
  fun h => hf.not_below_self c (.tail' (within_parent hd hne.symm h) hc)

/-! ### Upwards -/

/-- No chain is longer than there are nodes, since it meets none of them twice. -/
lemma length_chainUpTo_le (hk : f.IsNode k) (n : Nat) :
    (f.chainUpTo n k).length ≤ f.nodes.length := by
  have hnodup : (f.chainUpTo n k).Nodup := by
    refine List.Pairwise.imp ?_ (pairwise_chainUpTo n k)
    rintro d a hbelow rfl
    exact hf.not_below_self d hbelow
  have hsub : f.chainUpTo n k ⊆ List.range' 1 f.nodes.length := by
    intro a ha
    have hnode : f.IsNode a := by
      rcases within_iff.mp (within_of_mem_chainUpTo ha) with rfl | ⟨c, hc, -⟩
      · exact hk
      · exact hf.isNode_parent hc
    have hrange := isNode_iff.mp hnode
    rw [List.mem_range'_1]
    omega
  simpa using (hnodup.subperm hsub).length_le

lemma chain_eq_chainUpTo (hk : f.IsNode k) {n : Nat} (hn : f.nodes.length ≤ n) :
    f.chain k = f.chainUpTo n k := by
  rw [chain, chainUpTo_eq_take hn, List.take_of_length_le (hf.length_chainUpTo_le hk n)]

lemma chain_of_root (hk : f.IsNode k) (hp : (f.node k).parent = none) : f.chain k = [k] := by
  rw [hf.chain_eq_chainUpTo hk (Nat.le_succ _), chainUpTo, hp]

lemma chain_of_child (h : f.IsChild p k) : f.chain k = k :: f.chain p := by
  rw [hf.chain_eq_chainUpTo h.isNode (Nat.le_succ _), chainUpTo, h]
  rfl

lemma mem_chain (hk : f.IsNode k) : a ∈ f.chain k ↔ f.Within a k := by
  refine ⟨within_of_mem_chainUpTo, fun h => ?_⟩
  induction h with
  | refl =>
    cases hp : (f.node a).parent with
    | none => rw [hf.chain_of_root hk hp]; exact List.mem_singleton_self a
    | some p => rw [hf.chain_of_child hp]; exact List.mem_cons_self
  | tail _ h ih =>
    rw [hf.chain_of_child h]
    exact List.mem_cons_of_mem _ (ih (hf.isNode_parent h))

lemma mem_drop_chain (hk : f.IsNode k) : a ∈ (f.chain k).drop 1 ↔ f.Below a k := by
  cases hp : (f.node k).parent with
  | none =>
    rw [hf.chain_of_root hk hp]
    refine ⟨nofun, fun h => ?_⟩
    obtain ⟨p, -, h⟩ := Relation.TransGen.tail'_iff.mp h
    rw [IsChild, hp] at h
    cases h
  | some p =>
    have hchild : f.IsChild p k := hp
    rw [hf.chain_of_child hchild, List.drop_succ_cons, List.drop_zero,
      hf.mem_chain (hf.isNode_parent hchild)]
    refine ⟨fun h => .tail' h hchild, fun h => ?_⟩
    obtain ⟨q, hq, h⟩ := Relation.TransGen.tail'_iff.mp h
    rw [IsChild, hp] at h
    cases h
    exact hq

/-! ### Depths -/

lemma depth_child (h : f.IsChild p c) : f.depth c = f.depth p + 1 := by
  have hpos : 0 < (f.chain p).length :=
    List.length_pos_of_mem ((hf.mem_chain (hf.isNode_parent h)).mpr .refl)
  rw [depth, depth, hf.chain_of_child h, List.length_cons]
  omega

lemma depth_le_of_within (h : f.Within a d) : f.depth a ≤ f.depth d := by
  induction h with
  | refl => exact Nat.le_refl _
  | tail _ h ih =>
    have := hf.depth_child h
    omega

lemma depth_lt (hk : f.IsNode k) : f.depth k < f.nodes.length := by
  have hlen := hf.length_chainUpTo_le hk f.nodes.length
  have hrange := isNode_iff.mp hk
  rw [depth, chain]
  omega

/-! ### Downwards -/

lemma within_of_mem_subtreeTo {n : Nat} (h : d ∈ f.subtreeTo n k) :
    f.Within k d := by
  induction n generalizing k with
  | zero => cases h
  | succ n ih =>
    rw [subtreeTo] at h
    rcases List.mem_cons.mp h with rfl | h
    · exact .refl
    · obtain ⟨c, hc, hd⟩ := List.mem_flatMap.mp h
      exact .head ((hf.children k c).mp hc) (ih hd)

lemma mem_subtreeTo_of_within (h : f.Within k d) {n : Nat} (hn : f.depth d < f.depth k + n) :
    d ∈ f.subtreeTo n k := by
  induction n generalizing k with
  | zero =>
    have := hf.depth_le_of_within h
    omega
  | succ n ih =>
    rw [subtreeTo]
    rcases within_iff.mp h with rfl | ⟨c, hc, hd⟩
    · exact List.mem_cons_self
    · have hdepth := hf.depth_child hc
      exact List.mem_cons_of_mem _
        (List.mem_flatMap.mpr ⟨c, (hf.children k c).mpr hc, ih hd (by omega)⟩)

lemma mem_subtree (hk : f.IsNode k) : d ∈ f.subtree k ↔ f.Within k d := by
  refine ⟨hf.within_of_mem_subtreeTo, fun h => hf.mem_subtreeTo_of_within h ?_⟩
  have := hf.depth_lt (h.isNode hk)
  omega

lemma mem_walk {s : SceneId} : d ∈ f.walk s ↔ ∃ r ∈ f.roots s, f.Within r d := by
  rw [walk, List.mem_flatMap]
  exact exists_congr fun r => and_congr_right fun hr => hf.mem_subtree (hf.roots s r hr)

lemma isNode_of_mem_walk {s : SceneId} (h : d ∈ f.walk s) : f.IsNode d := by
  obtain ⟨r, hr, hd⟩ := hf.mem_walk.mp h
  exact hd.isNode (hf.roots s r hr)

lemma mem_walk_of_within {s : SceneId} (h : k ∈ f.walk s) (hd : f.Within k d) :
    d ∈ f.walk s := by
  obtain ⟨r, hr, hk⟩ := hf.mem_walk.mp h
  exact hf.mem_walk.mpr ⟨r, hr, hk.trans hd⟩

end WellFormed

end SceneBindings.Forest
