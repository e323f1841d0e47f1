import Mathlib.Data.List.Nodup
import Mathlib.Tactic.Lemma
import SceneBindings.Emit.HookScan

/-!
What changed between two lists of hooks, as sets. The two lists of a difference depend on which hooks
there are, not on their order or number.
-/

namespace SceneBindings.SignatureDiff

/-- The texts of one list that are not in another, each once, in alphabetical order. -/
structure IsDifference (ns xs ys : List String) : Prop where
  ascending : ns.Pairwise (· < ·)
  mem : ∀ n, n ∈ ns ↔ n ∈ xs ∧ n ∉ ys

lemma nodup_eraseDups (ns : List String) : ns.eraseDups.Nodup := by
  induction h : ns.length using Nat.strongRecOn generalizing ns with
  | ind k ih =>
    subst h
    cases ns with
    | nil => exact List.nodup_nil
    | cons n ns =>
      have hlength : (ns.filter fun m => !m == n).length < (n :: ns).length :=
        Nat.lt_succ_of_le (List.length_filter_le _ _)
      rw [List.eraseDups_cons, List.nodup_cons, List.mem_eraseDups]
      exact ⟨by simp, ih _ hlength _ rfl⟩

lemma mem_sorted {ns : List String} {n : String} : n ∈ sorted ns ↔ n ∈ ns := by
  rw [sorted, List.mem_mergeSort, List.mem_eraseDups]

lemma nodup_sorted (ns : List String) : (sorted ns).Nodup :=
  (List.mergeSort_perm _ _).nodup_iff.mpr (nodup_eraseDups ns)

lemma ascending_sorted (ns : List String) : (sorted ns).Pairwise (· < ·) := by
  have hle : (sorted ns).Pairwise fun a b => decide (a ≤ b) = true := by
    refine List.pairwise_mergeSort (fun a b c hab hbc => ?_) (fun a b => ?_) _
    · rw [decide_eq_true_eq] at hab hbc ⊢
      exact String.le_trans hab hbc
    · rw [Bool.or_eq_true, decide_eq_true_eq, decide_eq_true_eq]
      exact String.le_total a b
  refine List.Pairwise.imp₂ (fun a b hab hne => ?_) hle (nodup_sorted ns)
  rw [decide_eq_true_eq] at hab
  exact String.not_le.mp fun hba => hne (String.le_antisymm hab hba)

/-- An ascending list is known by its elements. -/
lemma ascending_eq {ns ms : List String} (hns : ns.Pairwise (· < ·)) (hms : ms.Pairwise (· < ·))
    (h : ∀ n, n ∈ ns ↔ n ∈ ms) : ns = ms := by
  have hnodup : ∀ {ns : List String}, ns.Pairwise (· < ·) → ns.Nodup := by
    refine fun hns => List.Pairwise.imp ?_ hns
    rintro a _ hab rfl
    exact String.lt_irrefl a hab
  refine List.Perm.eq_of_pairwise (fun a b _ _ hab hba => ?_) hns hms
    ((List.perm_ext_iff_of_nodup (hnodup hns) (hnodup hms)).mpr h)
  exact absurd hba (String.lt_asymm hab)

lemma isDifference_sorted (xs ys : List String) :
    IsDifference (sorted (xs.filter fun n => !ys.contains n)) xs ys := by
  refine ⟨ascending_sorted _, fun n => ?_⟩
  rw [mem_sorted, List.mem_filter, Bool.not_eq_true', List.contains_eq_mem, decide_eq_false_iff_not]

lemma isDifference_added (previous current : List String) :
    IsDifference (between previous current).added current previous :=
  isDifference_sorted current previous

lemma isDifference_removed (previous current : List String) :
    IsDifference (between previous current).removed previous current :=
  isDifference_sorted previous current

namespace IsDifference

variable {ns xs ys : List String}

lemma congr (h : IsDifference ns xs ys) {xs' ys' : List String} (hx : ∀ n, n ∈ xs ↔ n ∈ xs')
    (hy : ∀ n, n ∈ ys ↔ n ∈ ys') : IsDifference ns xs' ys' :=
  ⟨h.ascending, fun n => by rw [h.mem, hx, hy]⟩

lemma eq_nil (h : IsDifference ns xs ys) (hxy : ∀ n ∈ xs, n ∈ ys) : ns = [] :=
  List.eq_nil_iff_forall_not_mem.mpr fun n hn =>
    ((h.mem n).mp hn).2 (hxy n ((h.mem n).mp hn).1)

end IsDifference

lemma eq_empty {d : SignatureDiff} (hadded : d.added = []) (hremoved : d.removed = []) :
    d = .empty := by
  obtain ⟨added, removed⟩ := d
  cases hadded
  cases hremoved
  rfl

end SceneBindings.SignatureDiff
