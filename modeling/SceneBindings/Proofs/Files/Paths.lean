import Mathlib.Tactic.Lemma
import SceneBindings.Files.DiskPath
import SceneBindings.Text.Blank

/-!
Paths: the parts of a text between separators, and where a text leads when only its end changes.
-/

namespace SceneBindings

namespace Text

variable {sep : Char}

lemma splitAt_eq_singleton {s : List Char} (h : sep ∉ s) : splitAt sep s = [s] := by
  induction s with
  | nil => rfl
  | cons c s ih =>
    rw [List.mem_cons, not_or] at h
    rw [splitAt, if_neg fun hc => h.1 hc.symm, ih h.2]

lemma splitAt_append_cons {s : List Char} (h : sep ∉ s) (t : List Char) :
    splitAt sep (s ++ sep :: t) = s :: splitAt sep t := by
  induction s with
  | nil => rw [List.nil_append, splitAt, if_pos rfl]
  | cons c s ih =>
    rw [List.mem_cons, not_or] at h
    rw [List.cons_append, splitAt, if_neg fun hc => h.1 hc.symm, ih h.2]

/-- Parts that hold no separator are found again. -/
lemma splitAt_intercalate {ws : List (List Char)} (hne : ws ≠ []) (hws : ∀ w ∈ ws, sep ∉ w) :
    splitAt sep ([sep].intercalate ws) = ws := by
  induction ws with
  | nil => exact absurd rfl hne
  | cons w ws ih =>
    rw [List.forall_mem_cons] at hws
    cases ws with
    | nil =>
      rw [List.intercalate_singleton]
      exact splitAt_eq_singleton hws.1
    | cons v vs =>
      rw [List.intercalate_cons_cons, List.append_assoc, List.singleton_append,
        splitAt_append_cons hws.1, ih (List.cons_ne_nil v vs) hws.2]

lemma exists_splitAt_eq (sep : Char) (s : List Char) :
    ∃ init last, splitAt sep s = init ++ [last] := by
  have hne : splitAt sep s ≠ [] := by
    cases s with
    | nil => exact List.cons_ne_nil _ _
    | cons c s =>
      rw [splitAt]
      split
      · exact List.cons_ne_nil _ _
      · split <;> exact List.cons_ne_nil _ _
  exact ⟨_, _, (List.dropLast_concat_getLast hne).symm⟩

/-- No part holds a separator. -/
lemma sep_not_mem_splitAt {s w : List Char} (h : w ∈ splitAt sep s) : sep ∉ w := by
  induction s generalizing w with
  | nil =>
    rw [List.mem_singleton.mp h]
    exact List.not_mem_nil
  | cons c s ih =>
    obtain ⟨init, last, hsplit⟩ := exists_splitAt_eq sep s
    rw [splitAt] at h
    split at h
    · rcases List.mem_cons.mp h with rfl | h
      · exact List.not_mem_nil
      · exact ih h
    · next hc =>
      have hhead : ∀ {v : List Char}, sep ∉ v → sep ∉ c :: v := fun hv hmem =>
        (List.mem_cons.mp hmem).elim (fun heq => hc heq.symm) hv
      split at h
      · rw [List.mem_singleton.mp h]
        exact hhead List.not_mem_nil
      · next v vs hvs =>
        rw [hvs] at ih
        rcases List.mem_cons.mp h with rfl | h
        · exact hhead (ih List.mem_cons_self)
        · exact ih (List.mem_cons_of_mem v h)

/-- What is added without a separator is added to the last part. -/
lemma splitAt_append {s ext : List Char} {init : List (List Char)} {last : List Char}
    (hext : sep ∉ ext) (hs : splitAt sep s = init ++ [last]) :
    splitAt sep (s ++ ext) = init ++ [last ++ ext] := by
  induction s generalizing init last with
  | nil =>
    obtain ⟨rfl, hlast⟩ | ⟨-, hlast⟩ := List.append_eq_singleton_iff.mp hs.symm
    · cases hlast
      exact splitAt_eq_singleton hext
    · cases hlast
  | cons c s ih =>
    obtain ⟨init', last', hs'⟩ := exists_splitAt_eq sep s
    have hmore := ih hs'
    rw [splitAt, hs'] at hs
    rw [List.cons_append, splitAt, hmore]
    by_cases hc : c = sep
    · rw [if_pos hc, ← List.cons_append] at hs
      obtain ⟨rfl, hlast⟩ := List.append_inj' hs rfl
      cases hlast
      rw [if_pos hc, List.cons_append]
    · rw [if_neg hc] at hs ⊢
      cases init' with
      | nil =>
        have hs : [] ++ [c :: last'] = init ++ [last] := hs
        obtain ⟨rfl, hlast⟩ := List.append_inj' hs rfl
        cases hlast
        rfl
      | cons w init' =>
        have hs : (c :: w) :: init' ++ [last'] = init ++ [last] := hs
        obtain ⟨rfl, hlast⟩ := List.append_inj' hs rfl
        cases hlast
        rfl

end Text

namespace DiskPath

open Text

/-- There is a last name, and it is no double dot. -/
def Named (p : DiskPath) : Prop := ∃ ns n, p.names = ns ++ [n] ∧ n ≠ ".."

lemma Named.ne_nil {p : DiskPath} (h : p.Named) : p.names ≠ [] := by
  obtain ⟨ns, n, hnames, -⟩ := h
  rw [hnames]
  exact List.concat_ne_nil n ns

/-! ### Files with one stem -/

lemma rootOf_append (s : List Char) {ext : List Char} (hext : '/' ∉ ext) :
    rootOf (s ++ ext) = rootOf s := by
  have hhead : ∀ s : List Char, (∀ r, s ≠ '/' :: r) → ∀ r, s ++ ext ≠ '/' :: r := by
    rintro (_ | ⟨a, s⟩) hs r hr
    · exact hext (by rw [← List.nil_append ext, hr]; exact List.mem_cons_self)
    · exact hs s (by rw [(List.cons.inj hr).1])
  fun_cases rootOf s with
  | case1 => rfl
  | case2 s h => rw [List.cons_append, List.cons_append, rootOf]; exact hhead s h
  | case3 s _ h =>
    rw [List.cons_append, rootOf]
    · exact fun r => hhead s h ('/' :: r)
    · exact hhead s h
  | case4 _ _ _ h =>
    rw [rootOf]
    · exact fun r => hhead s h ('/' :: '/' :: r)
    · exact fun r => hhead s h ('/' :: r)
    · exact hhead s h

/-- Texts that differ in their ends only lead to neighbours in one directory. -/
lemma child_append (p : DiskPath) (s : String) :
    ∃ root ns base, ∀ ext : String, '/' ∉ ext.toList → 2 ≤ ext.toList.length →
      p.child (s ++ ext) = ⟨root, ns ++ [base ++ ext]⟩ := by
  obtain ⟨init, last, hsplit⟩ := exists_splitAt_eq '/' s.toList
  let names := (init.map String.ofList).filter fun n => !n.isEmpty && n != "."
  have hread : ∀ ext : String, '/' ∉ ext.toList → 2 ≤ ext.toList.length →
      ofString (s ++ ext) = ⟨rootOf s.toList, names ++ [String.ofList last ++ ext]⟩ := by
    intro ext hext hlength
    have hlast : String.ofList (last ++ ext.toList) = String.ofList last ++ ext := by
      rw [String.ofList_append, String.ofList_toList]
    have hkept : (!(String.ofList last ++ ext).isEmpty && (String.ofList last ++ ext) != ".") =
        true := by
      have hlong : 2 ≤ (String.ofList last ++ ext).toList.length := by
        rw [String.toList_append, List.length_append]
        omega
      generalize String.ofList last ++ ext = n at hlong
      have hn : n ≠ "" ∧ n ≠ "." := by
        constructor <;>
        · rintro rfl
          revert hlong
          decide
      simpa using hn
    rw [ofString, String.toList_append, rootOf_append _ hext, splitAt_append hext hsplit,
      List.map_append, List.filter_append, List.map_singleton, hlast, List.filter_cons, hkept]
    rfl
  by_cases hroot : rootOf s.toList = .relative
  · refine ⟨p.root, p.names ++ names, String.ofList last, fun ext hext hlength => ?_⟩
    rw [child, hread ext hext hlength, join, if_pos hroot, List.append_assoc]
  · refine ⟨rootOf s.toList, names, String.ofList last, fun ext hext hlength => ?_⟩
    rw [child, hread ext hext hlength, join, if_neg hroot]

end DiskPath

end SceneBindings
