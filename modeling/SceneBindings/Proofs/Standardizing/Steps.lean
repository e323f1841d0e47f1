import SceneBindings.Proofs.Standardizing.Visits

/-!
All that a standardizer does to names is a chain of single renamings of nodes: one visit, the naming of
parts and a run over a scene alike, forced or not. What one renaming keeps, all of them keep.
-/

namespace SceneBindings.Renaming

open Forest

variable {r r' : Renaming} {k : Key} {c : Capability} {s : SceneId} {force : Bool}

/-- A node is given a name that can be stored, or there is something to stop at. -/
inductive Step (r : Renaming) : Renaming → Prop
  | rename {k : Key} {new : String} (hk : r.forest.IsNode k) (hnew : '/' ∉ new.toList) :
      Step r (r.rename k new).1
  | stop (e : Option Failure) : Step r (r.stop e)

abbrev Steps : Renaming → Renaming → Prop := Relation.ReflTransGen Step

lemma orderly_of_steps (hr : Orderly r.forest) (h : Steps r r') :
    Orderly r'.forest ∧ Renamed r.forest r'.forest := by
  induction h with
  | refl => exact ⟨hr, .refl r.forest⟩
  | tail _ hstep ih =>
    cases hstep with
    | rename hk hnew =>
      have hone := (Works.rename hk .refl hnew).forest
      exact ⟨ih.1.renames hone, ih.2.trans hone.toRenamed⟩
    | stop => exact ih

lemma steps_renameAll {names : List (Key × String)}
    (hnames : ∀ n ∈ names, r.forest.IsNode n.1 ∧ '/' ∉ n.2.toList) : Steps r (r.renameAll names) := by
  induction names generalizing r with
  | nil => exact .refl
  | cons n names ih =>
    rw [List.forall_mem_cons] at hnames
    obtain ⟨⟨hk, hnew⟩, hrest⟩ := hnames
    have hone := (Works.rename hk .refl hnew).forest
    refine .head (.rename hk hnew) (ih fun m hm => ?_)
    exact ⟨hone.isNode_iff.mpr (hrest m hm).1, (hrest m hm).2⟩

section Visit

variable (hr : Orderly r.forest) (hk : r.forest.IsNode k)

include hr hk

lemma steps_standardizeParts : Steps r (r.standardizeParts k c) := by
  have hall : Steps r (r.renameAll (r.partNames k c)) := steps_renameAll fun n hn =>
    ⟨(exists_role_of_mem_partNames hr hk hn).1.isNode hk, slash_not_mem_of_mem_partNames hr hk hn⟩
  rw [standardizeParts_eq]
  exact hall.tail (.stop _)

lemma steps_standardize : Steps r (r.standardize k force).1 := by
  rw [standardize]
  dsimp only
  split
  · exact .refl
  · have hone : Steps r (r.rename k (Name.normalize (r.name k) (r.forest.classify k) true)).1 :=
      .single (.rename hk (Name.slash_not_mem_normalize (hr.names k hk).2 _ _))
    obtain ⟨horderly, hrenamed⟩ := orderly_of_steps hr hone
    split
    · exact hone.trans (steps_standardizeParts horderly (hrenamed.isNode_iff.mpr hk))
    · exact hone

end Visit

lemma steps_visitAll {ks : List Key} (hr : Orderly r.forest) (hks : ∀ k ∈ ks, r.forest.IsNode k) :
    Steps r (r.visitAll force ks) := by
  induction ks generalizing r with
  | nil => exact .refl
  | cons k ks ih =>
    rw [List.forall_mem_cons] at hks
    have hone : Steps r (r.standardize k force).1 := steps_standardize hr hks.1
    rw [visitAll]
    split
    · exact hone
    · obtain ⟨horderly, hrenamed⟩ := orderly_of_steps hr hone
      exact hone.trans (ih horderly fun j hj => hrenamed.isNode_iff.mpr (hks.2 j hj))

lemma steps_standardizeScene (hr : Orderly r.forest) :
    Steps r (r.standardizeScene s force).1 :=
  steps_visitAll hr (isNode_of_mem_bottomUp hr)

lemma settings_of_steps (h : Steps r r') :
    r'.namer.renamesParts = r.namer.renamesParts ∧
      r'.namer.respectsExisting = r.namer.respectsExisting := by
  induction h with
  | refl => exact ⟨rfl, rfl⟩
  | tail _ hstep ih =>
    cases hstep with
    | rename hk hnew =>
      rw [rename]
      dsimp only
      split
      · exact ih
      · exact ih
    | stop => exact ih

end SceneBindings.Renaming
