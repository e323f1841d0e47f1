import Mathlib.Data.List.TakeWhile
import SceneBindings.Proofs.Standardizing.Rerun

/-!
What the visits before and after that of a node do to names. Those before it concern nodes below it or
beside it, later ones nodes above it or beside it.
-/

namespace SceneBindings

namespace Renaming

open Forest

variable {f : Forest} {r r' : Renaming} {s : SceneId} {e j k : Key} {ks : List Key}

/-! ### Before and after -/

/-- The nodes that are visited before a node. -/
def earlier (f : Forest) (s : SceneId) (k : Key) : List Key := (bottomUp f s).takeWhile (· != k)

lemma bottomUp_eq (hf : f.Housed s) (hk : k ∈ f.walk s) :
    ∃ later, bottomUp f s = earlier f s k ++ k :: later ∧
      (∀ e ∈ earlier f s k, ¬ f.Within e k) ∧ ∀ e ∈ later, ¬ f.Within k e := by
  have hsplit := List.takeWhile_append_dropWhile (p := (· != k)) (l := bottomUp f s)
  cases hrest : (bottomUp f s).dropWhile (· != k) with
  | nil =>
    rw [hrest, List.append_nil] at hsplit
    have hmem : k ∈ (bottomUp f s).takeWhile (· != k) := hsplit.symm ▸ mem_bottomUp.mpr hk
    simpa using List.mem_takeWhile_imp hmem
  | cons e later =>
    have he : e = k := by
      have hhead := List.head?_dropWhile_not (· != k) (bottomUp f s)
      rw [hrest] at hhead
      simpa using hhead
    rw [hrest, he, ← earlier] at hsplit
    have hpairs := pairwise_bottomUp hf
    rw [← hsplit, List.pairwise_append, List.pairwise_cons] at hpairs
    exact ⟨later, hsplit.symm, fun e he => hpairs.2.2 e he k List.mem_cons_self, hpairs.2.1.1⟩

/-! ### Where visits change names -/

/-- The roles of nodes that hold others and name none of them. -/
def containers : List Capability := [.panel, .canvas, .canvasGroup, .unknown]

/-- An image that holds other nodes is a panel under any name. -/
lemma classify_mem_containers {g : Forest} (hshape : (g.node k).shape = (f.node k).shape)
    (hchildren : (f.node k).children ≠ []) (h : f.classify k ∈ containers) :
    g.classify k ∈ containers := by
  rcases classify_cases hshape with heq | ⟨-, hg⟩
  · exact heq ▸ h
  · have hsame : (g.node k).children = (f.node k).children := (congrArg Node.children hshape :)
    rw [hg, isPanelImage, hsame, List.isEmpty_eq_false_iff.mpr hchildren]
    exact List.mem_cons_self

lemma containers_above {g : Forest} (hf : f.WellFormed) (h : Reshaped f g)
    (habove : ∀ a, f.Below a k → f.classify a ∈ containers) :
    ∀ a, g.Below a k → g.classify a ∈ containers := by
  intro a ha
  rw [Below, h.isChild_eq] at ha
  obtain ⟨c, hc, -⟩ := below_iff.mp ha
  exact classify_mem_containers (h.shape a)
    (List.ne_nil_of_mem ((hf.children a c).mpr hc)) (habove a ha)

section Visits

variable (hr : Orderly r.forest)

include hr

/-- A visit of a container renames nothing but the container. -/
lemma name_standardize_of_container (he : r.forest.IsNode e)
    (h : r.forest.classify e ∈ containers) (hj : j ≠ e) :
    (r.standardize e false).1.name j = r.name j := by
  have hnone : r.visitNames e = [] := by
    have hroles : ∀ g : Renaming, g.partNames e .panel = [] := fun _ => rfl
    rw [visitNames]
    split
    · next hvisit =>
      rw [Bool.and_eq_true, Bool.and_eq_true, Bool.not_eq_true'] at hvisit
      have hnameable := nameable_of_not_passesOver hvisit.1.1
      rw [Nameable] at hnameable
      simp only [containers, List.mem_cons, List.not_mem_nil, or_false] at h
      rcases h with h | h | h | h
      · rw [h, hroles]
      all_goals
        rw [h] at hnameable
        cases hnameable
    · rfl
  rcases name_standardize hr he j with hmem | ⟨-, hname⟩
  · rw [hnone] at hmem
    cases hmem
  · rwa [if_neg fun hboth => hj hboth.1] at hname

variable (hks : ∀ e ∈ ks, r.forest.IsNode e)

include hks

lemma name_visits_of_not_within (h : ∀ e ∈ ks, ¬ r.forest.Within e j) :
    (r.visits ks).name j = r.name j := by
  induction ks generalizing r with
  | nil => rfl
  | cons e ks ih =>
    rw [List.forall_mem_cons] at hks h
    have hone := works_standardize false hr hks.1
    refine (ih (hr.renames hone.forest) (fun i hi => hone.forest.isNode_iff.mpr (hks.2 i hi)) ?_).trans
      (name_standardize_of_not_within hr hks.1 h.1)
    rw [hone.forest.within_eq]
    exact h.2

/-- Below a node whose ancestors are containers, visits elsewhere change no name. -/
lemma name_visits_of_containers (hout : ∀ e ∈ ks, ¬ r.forest.Within k e)
    (habove : ∀ a, r.forest.Below a k → r.forest.classify a ∈ containers)
    (hj : r.forest.Within k j) : (r.visits ks).name j = r.name j := by
  induction ks generalizing r with
  | nil => rfl
  | cons e ks ih =>
    rw [List.forall_mem_cons] at hks hout
    have hone := works_standardize false hr hks.1
    refine (ih (hr.renames hone.forest) (fun i hi => hone.forest.isNode_iff.mpr (hks.2 i hi))
      ?_ (containers_above hr.wellFormed hone.forest.toReshaped habove) ?_).trans ?_
    · rw [hone.forest.within_eq]
      exact hout.2
    · rw [hone.forest.within_eq]
      exact hj
    · by_cases hej : r.forest.Within e j
      · have hek : r.forest.Within e k := (within_total hej hj).resolve_right hout.1
        have hbelow : r.forest.Below e k := by
          refine (within_iff_below.mp hek).resolve_left ?_
          rintro rfl
          exact hout.1 .refl
        exact name_standardize_of_container hr hks.1 (habove e hbelow)
          fun hje => hout.1 (hje ▸ hj)
      · exact name_standardize_of_not_within hr hks.1 hej

end Visits

end Renaming

end SceneBindings
