import Mathlib.Data.List.GetD
import SceneBindings.Proofs.Scene.Building

/-!
What building a described tree puts into the new nodes: the components that their entries describe, one
of each label. None of these has a part yet; what they name is left to be looked up.
-/

namespace SceneBindings.Forest

open NodeSpec

variable {f g : Forest} {k : Key}

lemma getD_described (entries : List (List Value)) (i : Nat) :
    (entries.map described).getD i [] = described (entries.getD i []) := by
  have hnone : described [] = [] := rfl
  rw [← hnone, List.getD_map]

/-- The parts that the components of consecutive nodes name. -/
def pendingFrom (k : Nat) : List (List (Component × Value)) → List Pending
  | [] => []
  | cs :: css => pendingOf k cs ++ pendingFrom (k + 1) css

lemma length_setParent (f : Forest) (k : Key) (up : Option Key) :
    (f.setParent k up).nodes.length = f.nodes.length := by
  have hhang : (f.hang k up).nodes.length = f.nodes.length := by
    cases up with
    | none => exact (length_modify _ k _).trans (length_unlink f k)
    | some p => exact (length_modify _ p _).trans ((length_modify _ k _).trans (length_unlink f k))
  rw [setParent_eq_hang]
  split
  · rfl
  · rw [nodes_announce]
    cases up with
    | none => exact hhang
    | some p => exact (length_assignScene _ k _).trans hhang

/-- The second forest has new nodes with the components of given lists, and what these name is to be
looked up. -/
structure Fills (b b' : Built) (css : List (List (Component × Value))) : Prop where
  length : b'.forest.nodes.length = b.forest.nodes.length + css.length
  components : ∀ j : Nat, (b'.forest.node j).components =
    if j ≤ b.forest.nodes.length then (b.forest.node j).components
    else (installed (css.getD (j - (b.forest.nodes.length + 1)) [])).map (·.1)
  pending : b'.pending = b.pending ++ pendingFrom (b.forest.nodes.length + 1) css

namespace Fills

variable {b b' b'' : Built} {css css' : List (List (Component × Value))}

lemma nil (b : Built) : Fills b b [] where
  length := rfl
  components j := by
    split
    · rfl
    · rw [node_of_not_isNode (by rw [isNode_iff]; omega)]
      rfl
  pending := (List.append_nil _).symm

lemma pendingFrom_append (k : Nat) (css css' : List (List (Component × Value))) :
    pendingFrom k (css ++ css') = pendingFrom k css ++ pendingFrom (k + css.length) css' := by
  induction css generalizing k with
  | nil => rfl
  | cons cs css ih =>
    rw [List.cons_append, pendingFrom, pendingFrom, ih, List.append_assoc, List.length_cons,
      Nat.add_assoc, Nat.add_comm 1]

lemma append (h : Fills b b' css) (h' : Fills b' b'' css') : Fills b b'' (css ++ css') := by
  have hlength := h.length
  refine ⟨by rw [h'.length, hlength, List.length_append, Nat.add_assoc], fun j => ?_, ?_⟩
  · rw [h'.components, h.components]
    split_ifs with h₁ h₂ h₃
    · rfl
    · rw [List.getD_append _ _ _ _ (by omega)]
    · omega
    · rw [List.getD_append_right _ _ _ _ (by omega)]
      congr 3
      omega
  · rw [h'.pending, h.pending, pendingFrom_append, List.append_assoc, hlength, Nat.add_right_comm]

/-- Relations between nodes are of no account. -/
lemma congr (h : Fills b b' css) {g : Forest} (hlength : g.nodes.length = b'.forest.nodes.length)
    (hcomponents : ∀ j, (g.node j).components = (b'.forest.node j).components) :
    Fills b { b' with forest := g } css where
  length := hlength.trans h.length
  components j := (hcomponents j).trans (h.components j)
  pending := h.pending

lemma begin (b : Built) (name : String) (active : Bool) (cs : List (Component × Value)) :
    Fills b ⟨b.forest.begin name active cs,
      b.pending ++ pendingOf (b.forest.nodes.length + 1) cs⟩ [cs] where
  length := length_begin name active cs
  components j := by
    rw [node_begin]
    rcases Nat.lt_trichotomy j (b.forest.nodes.length + 1) with hj | hj | hj
    · rw [if_neg (Nat.ne_of_lt hj), if_pos (by omega)]
    · rw [if_pos hj, if_neg (by omega), hj, Nat.sub_self]
      rfl
    · rw [if_neg (Nat.ne_of_gt hj), if_neg (by omega), node_of_not_isNode (by rw [isNode_iff]; omega),
        List.getD_eq_default _ _ (by rw [List.length_singleton]; omega)]
      rfl
  pending := by rw [pendingFrom, pendingFrom, List.append_nil]

end Fills

mutual

theorem fills_build {b b' : Built} {t : NodeSpec} {k : Key} (h : build b t = (b', .ok k)) :
    Fills b b' (t.entries.map described) := by
  cases t with
  | mk name active components children =>
    cases hcs : describedComponents components with
    | error e =>
      rw [build, hcs] at h
      cases h
    | ok cs =>
      rw [build_eq b hcs] at h
      rcases hall : buildAll ⟨b.forest.begin name active cs,
        b.pending ++ pendingOf (b.forest.nodes.length + 1) cs⟩ (b.forest.nodes.length + 1)
        children with ⟨b₁, _ | _⟩
      · rw [hall] at h
        cases h
      · rw [hall] at h
        cases h
        have hdescribed : described components = cs := by rw [described, hcs]
        rw [NodeSpec.entries, List.map_cons, hdescribed]
        exact (Fills.begin b name active cs).append (fills_buildAll hall)

theorem fills_buildAll {b b' : Built} {p : Key} {ts : List NodeSpec}
    (h : buildAll b p ts = (b', .ok ())) : Fills b b' ((entriesAll ts).map described) := by
  cases ts with
  | nil =>
    cases h
    exact .nil _
  | cons t ts =>
    rw [buildAll] at h
    split at h
    · cases h
    · next b₁ k hfirst =>
      rw [entriesAll, List.map_append]
      refine ((fills_build hfirst).congr ?_ fun j => ?_).append (fills_buildAll h)
      · exact length_setParent b₁.forest k (some p)
      · exact components_setParent b₁.forest k (some p) j

end

lemma fills_buildRoots {b b' : Built} {s : SceneId} {ts : List NodeSpec}
    (h : buildRoots b s ts = (b', .ok ())) : Fills b b' ((entriesAll ts).map described) := by
  induction ts generalizing b with
  | nil =>
    cases h
    exact .nil _
  | cons t ts ih =>
    rw [buildRoots] at h
    rcases hfirst : build b t with ⟨b₁, e | k⟩
    · rw [hfirst] at h
      grind
    · rw [hfirst] at h
      rw [entriesAll, List.map_append]
      refine ((fills_build hfirst).congr ?_ fun j => ?_).append (ih h)
      · exact (length_assignScene _ k _).trans (length_setParent b₁.forest k none)
      · exact (node_addRoot_keeps (·.components) (fun _ _ => rfl) b₁.forest s k j).trans
          (components_setParent b₁.forest k none j)

end SceneBindings.Forest
