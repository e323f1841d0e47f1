import Mathlib.Tactic.Lemma
import SceneBindings.Emit.Grouping

/-!
The order of emission. References are compared by lists of texts, of which the first that differs
decides; references with different keys therefore have one order only, however they were listed.
-/

namespace SceneBindings

/-- By name, then by path. -/
def Reference.NameLe (a b : Reference) : Prop :=
  a.name < b.name ∨ a.name = b.name ∧ a.path ≤ b.path

/-- By the label of the role, then by name, then by path. -/
def Reference.EmissionLe (a b : Reference) : Prop :=
  a.capability.label < b.capability.label ∨ a.capability.label = b.capability.label ∧ a.NameLe b

namespace PanelGroup

variable {a b : String} {as bs cs : List String}

/-! ### Lists of texts -/

lemma keyLe_cons : keyLe (a :: as) (b :: bs) = true ↔ a < b ∨ a = b ∧ keyLe as bs = true := by
  rw [keyLe, Bool.or_eq_true, decide_eq_true_eq, Bool.and_eq_true, beq_iff_eq]

lemma keyLe_singleton : keyLe [a] [b] = true ↔ a ≤ b := by
  rw [keyLe_cons, keyLe, and_iff_left rfl]
  constructor
  · rintro (hlt | rfl)
    · exact String.not_lt.mp (String.lt_asymm hlt)
    · exact String.le_refl a
  · intro hle
    by_cases hlt : a < b
    · exact .inl hlt
    · exact .inr (String.le_antisymm hle (String.not_lt.mp hlt))

lemma keyLe_total (as bs : List String) : (keyLe as bs || keyLe bs as) = true := by
  induction as generalizing bs with
  | nil => rw [keyLe, Bool.true_or]
  | cons a as ih =>
    cases bs with
    | nil => rw [keyLe, keyLe, Bool.false_or]
    | cons b bs =>
      rw [Bool.or_eq_true, keyLe_cons, keyLe_cons]
      by_cases hab : a = b
      · subst hab
        exact ((Bool.or_eq_true _ _).mp (ih bs)).imp (fun h => .inr ⟨rfl, h⟩) fun h => .inr ⟨rfl, h⟩
      · rcases String.le_total a b with hle | hle
        · exact .inl (.inl (String.not_le.mp fun hge => hab (String.le_antisymm hle hge)))
        · exact .inr (.inl (String.not_le.mp fun hge => hab (String.le_antisymm hge hle)))

lemma keyLe_trans (hab : keyLe as bs = true) (hbc : keyLe bs cs = true) : keyLe as cs = true := by
  induction as generalizing bs cs with
  | nil => rw [keyLe]
  | cons a as ih =>
    cases bs with
    | nil => cases hab
    | cons b bs =>
      cases cs with
      | nil => cases hbc
      | cons c cs =>
        rw [keyLe_cons] at hab hbc ⊢
        rcases hab with hab | ⟨rfl, hab⟩
        · rcases hbc with hbc | ⟨rfl, -⟩
          · exact .inl (String.lt_trans hab hbc)
          · exact .inl hab
        · exact hbc.imp id fun h => ⟨h.1, ih hab h.2⟩

lemma keyLe_antisymm (hab : keyLe as bs = true) (hba : keyLe bs as = true) : as = bs := by
  induction as generalizing bs with
  | nil =>
    cases bs with
    | nil => rfl
    | cons b bs => cases hba
  | cons a as ih =>
    cases bs with
    | nil => cases hab
    | cons b bs =>
      rw [keyLe_cons] at hab hba
      rcases hab with hab | ⟨rfl, hab⟩
      · rcases hba with hba | ⟨rfl, -⟩
        · exact absurd hba (String.lt_asymm hab)
        · exact absurd hab (String.lt_irrefl _)
      · rcases hba with hba | ⟨-, hba⟩
        · exact absurd hba (String.lt_irrefl _)
        · rw [ih hab hba]

/-! ### References -/

variable {r s : Reference} {ns ms : List Numbered} {by' : Reference → List String}

lemma keyLe_panelKey : keyLe (panelKey r) (panelKey s) = true ↔ r.NameLe s := by
  rw [panelKey, panelKey, keyLe_cons, keyLe_singleton, Reference.NameLe]

lemma keyLe_emissionKey : keyLe (emissionKey r) (emissionKey s) = true ↔ r.EmissionLe s := by
  rw [emissionKey, emissionKey, keyLe_cons, keyLe_cons, keyLe_singleton, Reference.EmissionLe,
    Reference.NameLe]

lemma sortBy_perm (by' : Reference → List String) (ns : List Numbered) : (sortBy by' ns).Perm ns :=
  List.mergeSort_perm ns _

lemma pairwise_sortBy (by' : Reference → List String) (ns : List Numbered) :
    (sortBy by' ns).Pairwise fun n m => keyLe (by' n.2) (by' m.2) = true := by
  refine List.pairwise_mergeSort ?_ ?_ ns
  · exact fun _ _ _ hab hbc => keyLe_trans hab hbc
  · exact fun n m => keyLe_total (by' n.2) (by' m.2)

/-- The first of sorted references is the least. -/
lemma head?_sortBy {n : Numbered} (h : (sortBy by' ns).head? = some n) :
    n ∈ ns ∧ ∀ m ∈ ns, keyLe (by' n.2) (by' m.2) = true := by
  have hsorted := pairwise_sortBy by' ns
  have hmem : ∀ m, m ∈ sortBy by' ns ↔ m ∈ ns := fun m => (sortBy_perm by' ns).mem_iff
  refine ⟨(hmem n).mp (List.mem_of_head? h), fun m hm => ?_⟩
  rw [← hmem] at hm
  cases hs : sortBy by' ns with
  | nil =>
    rw [hs] at hm
    cases hm
  | cons n' ns' =>
    rw [hs] at h hm hsorted
    cases h
    rcases List.mem_cons.mp hm with rfl | hm
    · exact ((Bool.or_self _).symm.trans (keyLe_total _ _) :)
    · exact List.rel_of_pairwise_cons hsorted hm

lemma head?_sortBy_eq_none : (sortBy by' ns).head? = none ↔ ns = [] := by
  rw [List.head?_eq_none_iff]
  constructor
  · intro h
    have hperm := sortBy_perm by' ns
    rw [h] at hperm
    exact hperm.symm.eq_nil
  · rintro rfl
    exact List.mergeSort_nil

end PanelGroup

end SceneBindings
