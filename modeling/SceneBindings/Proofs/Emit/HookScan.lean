import Mathlib.Data.List.TakeWhile
import Mathlib.Tactic.Lemma
import SceneBindings.Emit.HookScan
import SceneBindings.Emit.Lines
import SceneBindings.Files.Store

/-!
The scan for hooks, line by line. A line that cannot begin a hook is passed over, a line that
declares one yields its name, and what a text of several lines yields is what its lines yield.
-/

namespace SceneBindings.HookScan

open Text Emit

/-! ### One hook -/

lemma expect?_eq_some {p s r : List Char} : expect? p s = some r ↔ s = p ++ r := by
  induction p generalizing s with
  | nil => simp [expect?]
  | cons a p ih =>
    cases s with
    | nil => simp [expect?]
    | cons c s =>
      by_cases hac : a = c
      · simp [expect?, hac, ih]
      · have hca : c ≠ a := Ne.symm hac
        simp [expect?, hac, hca]

lemma expect?_append (p r : List Char) : expect? p (p ++ r) = some r := expect?_eq_some.mpr rfl

lemma skipBlanks_suffix (s : List Char) : skipBlanks s <:+ s := List.dropWhile_suffix _

lemma skipBlanks_append {p : List Char} (h : skipBlanks p ≠ []) (t : List Char) :
    skipBlanks (p ++ t) = skipBlanks p ++ t := by
  have hp : (List.dropWhile isBlank p).isEmpty = false := by
    rw [List.isEmpty_eq_false_iff]
    exact h
  rw [skipBlanks, List.dropWhile_append, hp]
  rfl

lemma skipGap?_suffix {s r : List Char} (h : skipGap? s = some r) : r <:+ s := by
  cases s with
  | nil => cases h
  | cons c s =>
    rw [skipGap?] at h
    split at h
    · cases h
      exact (skipBlanks_suffix s).trans (List.suffix_cons c s)
    · cases h

/-- A hook ends with the last letter of `self`, and what follows it is the rest. -/
lemma hookAt?_eq_some {s name rest : List Char} (h : hookAt? s = some (name, rest)) :
    ∃ pre, s = pre ++ 'f' :: rest := by
  simp only [hookAt?, Option.bind_eq_bind, Option.bind_eq_some_iff] at h
  obtain ⟨r₁, h₁, r₂, h₂, r₃, h₃, h⟩ := h
  split at h
  · cases h
  · obtain ⟨r₄, h₄, h⟩ := Option.bind_eq_some_iff.mp h
    obtain ⟨r₅, h₅, he⟩ := Option.bind_eq_some_iff.mp h
    cases he
    rw [expect?_eq_some] at h₁ h₃ h₄ h₅
    have s₁ : r₁ <:+ s :=
      (h₁ ▸ List.suffix_append _ _ : r₁ <:+ skipBlanks s).trans (skipBlanks_suffix s)
    have s₂ : r₂ <:+ r₁ := skipGap?_suffix h₂
    have s₃ : r₃ <:+ r₂ := h₃ ▸ List.suffix_append _ _
    have s₄ : r₄ <:+ skipBlanks (r₃.dropWhile isWord) := h₄ ▸ List.suffix_append _ _
    have s₅ : "self".toList ++ rest <:+ r₄ := h₅ ▸ skipBlanks_suffix r₄
    have hword : skipBlanks (r₃.dropWhile isWord) <:+ r₃ :=
      (skipBlanks_suffix _).trans (List.dropWhile_suffix _)
    obtain ⟨pre, hpre⟩ := ((((s₅.trans s₄).trans hword).trans s₃).trans s₂).trans s₁
    exact ⟨pre ++ "sel".toList, by rw [← hpre, List.append_assoc]; rfl⟩

lemma hookAt?_declaration {tail : List Char} (hne : tail ≠ []) (hw : ∀ c ∈ tail, isWord c = true)
    (rest : List Char) :
    hookAt? ("    def on_".toList ++ tail ++ ("(self".toList ++ rest)) =
      some ("on_".toList ++ tail, rest) := by
  have htake : (tail ++ ("(self".toList ++ rest)).takeWhile isWord = tail := by
    rw [List.takeWhile_append_of_pos hw]
    simp [isWord]
  have hdrop : (tail ++ ("(self".toList ++ rest)).dropWhile isWord = "(self".toList ++ rest := by
    rw [List.dropWhile_append_of_pos hw]
    rfl
  have hhead : hookAt? ("    def on_".toList ++ tail ++ ("(self".toList ++ rest)) = (do
      let r ← if tail.isEmpty then none else expect? ['('] (skipBlanks ("(self".toList ++ rest))
      let r ← expect? "self".toList (skipBlanks r)
      return ("on_".toList ++ tail, r)) := by
    have hskip : skipBlanks ("    def on_".toList ++ tail ++ ("(self".toList ++ rest)) =
        "def".toList ++ (" on_".toList ++ (tail ++ ("(self".toList ++ rest))) := by
      rw [List.append_assoc]
      rfl
    rw [hookAt?, hskip, expect?_append]
    have hgap : skipGap? (" on_".toList ++ (tail ++ ("(self".toList ++ rest))) =
        some ("on_".toList ++ (tail ++ ("(self".toList ++ rest))) := rfl
    simp only [Option.bind_eq_bind, Option.bind_some, hgap, expect?_append, htake, hdrop]
  rw [hhead, List.isEmpty_eq_false_iff.mpr hne]
  rfl

lemma hookAt?_isWord {s name rest : List Char} (h : hookAt? s = some (name, rest)) :
    ∀ c ∈ name, isWord c = true := by
  simp only [hookAt?, Option.bind_eq_bind, Option.bind_eq_some_iff] at h
  obtain ⟨r₁, -, r₂, -, r₃, -, h⟩ := h
  split at h
  · cases h
  · obtain ⟨r₄, -, h⟩ := Option.bind_eq_some_iff.mp h
    obtain ⟨r₅, -, he⟩ := Option.bind_eq_some_iff.mp h
    cases he
    rw [List.forall_mem_append]
    exact ⟨List.all_eq_true.mp (by decide), fun c hc => List.mem_takeWhile_imp hc⟩

/-! ### The scan -/

lemma scanFrom_skip (pre rest : List Char) (c : Char) (lineStart : Bool) :
    scanFrom (pre.length + 1) lineStart (pre ++ c :: rest) = scanFrom 0 (c == '\n') rest := by
  induction pre generalizing lineStart with
  | nil => rfl
  | cons a pre ih => exact ih (a == '\n')

lemma scanFrom_hook {s name rest : List Char} (h : hookAt? s = some (name, rest)) :
    scanFrom 0 true s = name :: scanFrom 0 false rest := by
  obtain ⟨pre, rfl⟩ := hookAt?_eq_some h
  cases pre with
  | nil =>
    simp only [List.nil_append] at h ⊢
    simp [scanFrom, h]
  | cons c pre =>
    have hlen : (pre ++ 'f' :: rest).length - rest.length = pre.length + 1 := by
      rw [List.length_append, List.length_cons]
      omega
    simp only [List.cons_append] at h ⊢
    simp only [scanFrom, if_true, h, hlen]
    rw [scanFrom_skip]
    rfl

/-- The name of a hook is a word. -/
lemma isWord_scanFrom {s name : List Char} {skip : Nat} {lineStart : Bool}
    (h : name ∈ scanFrom skip lineStart s) : ∀ c ∈ name, isWord c = true := by
  induction s generalizing skip lineStart with
  | nil => cases h
  | cons a r ih =>
    unfold scanFrom at h
    cases skip with
    | succ n => exact ih h
    | zero =>
      dsimp only at h
      split at h
      · next found rest hhook =>
        have hat : hookAt? (a :: r) = some (found, rest) := by
          split at hhook
          · exact hhook
          · cases hhook
        rcases List.mem_cons.mp h with rfl | h
        · exact hookAt?_isWord hat
        · exact ih h
      · exact ih h

lemma scanFrom_of_none {c : Char} {r : List Char} (h : hookAt? (c :: r) = none) :
    scanFrom 0 true (c :: r) = scanFrom 0 (c == '\n') r := by
  simp only [scanFrom, if_true, h]

lemma scanFrom_to_break {l : List Char} (h : '\n' ∉ l) (rest : List Char) :
    scanFrom 0 false (l ++ '\n' :: rest) = scanFrom 0 true rest := by
  induction l with
  | nil => rfl
  | cons c l ih =>
    rw [List.mem_cons, not_or] at h
    have hc : (c == '\n') = false := beq_eq_false_iff_ne.mpr (Ne.symm h.1)
    simp only [List.cons_append, scanFrom, hc]
    exact ih h.2

/-- An empty line hides nothing: a hook may follow it, and is then read at the empty line. -/
lemma scanFrom_empty_line (s : List Char) : scanFrom 0 true ('\n' :: s) = scanFrom 0 true s := by
  have hskip : hookAt? ('\n' :: s) = hookAt? s := rfl
  cases h : hookAt? s with
  | none => exact scanFrom_of_none (hskip.trans h)
  | some found => rw [scanFrom_hook (hskip.trans h), scanFrom_hook h]

/-! ### Lines -/

/-- No hook begins with these characters, whatever follows them. -/
def isDead (p : List Char) : Bool :=
  match skipBlanks p with
  | 'd' :: 'e' :: 'f' :: c :: r =>
    !isBlank c ||
      match skipBlanks r with
      | [] => false
      | d :: _ => d != 'o'
  | s => !s.isPrefixOf "def".toList

lemma skipBlanks_ne_nil_of_isDead {p : List Char} (h : isDead p = true) : skipBlanks p ≠ [] := by
  intro hp
  rw [isDead, hp] at h
  cases h

lemma expect?_def_eq_none {s : List Char} (hlong : ∀ c r, s ≠ 'd' :: 'e' :: 'f' :: c :: r)
    (h : s.isPrefixOf "def".toList = false) (t : List Char) :
    expect? "def".toList (s ++ t) = none := by
  cases hx : expect? "def".toList (s ++ t) with
  | none => rfl
  | some r =>
    exfalso
    have heq : s ++ t = "def".toList ++ r := expect?_eq_some.mp hx
    rcases List.append_eq_append_iff.mp heq with ⟨u, hu, -⟩ | ⟨u, hu, -⟩
    · have hprefix : s.isPrefixOf "def".toList = true :=
        List.isPrefixOf_iff_prefix.mpr ⟨u, hu.symm⟩
      rw [h] at hprefix
      cases hprefix
    · cases u with
      | nil =>
        rw [hu] at h
        cases h
      | cons c u => exact hlong c u hu

lemma hookAt?_of_isDead {p : List Char} (h : isDead p = true) (t : List Char) :
    hookAt? (p ++ t) = none := by
  rw [hookAt?, skipBlanks_append (skipBlanks_ne_nil_of_isDead h)]
  rw [isDead] at h
  split at h
  · next c r hp =>
    have hdef : expect? "def".toList (('d' :: 'e' :: 'f' :: c :: r) ++ t) = some (c :: (r ++ t)) := rfl
    rw [hp, hdef]
    simp only [Option.bind_eq_bind, Option.bind_some, skipGap?]
    cases hc : isBlank c with
    | false => rfl
    | true =>
      rw [hc] at h
      split at h
      · cases h
      · next d r' hr =>
        have hrne : skipBlanks r ≠ [] := by rw [hr]; exact List.cons_ne_nil _ _
        have hd : ¬ 'o' = d := by
          rintro rfl
          cases h
        have hon : expect? "on_".toList ((d :: r') ++ t) = none := by
          simp [expect?, hd]
        simp only [if_true, Option.bind_some, skipBlanks_append hrne, hr, hon, Option.bind_none]
  · next hlong =>
    rw [Bool.not_eq_true'] at h
    rw [expect?_def_eq_none hlong h]
    rfl

lemma isDead_append {p : List Char} (h : isDead p = true) (q : List Char) :
    isDead (p ++ q) = true := by
  have hskip := skipBlanks_append (skipBlanks_ne_nil_of_isDead h) q
  rw [isDead] at h ⊢
  rw [hskip]
  split at h
  · next c r hp =>
    rw [hp]
    cases hc : isBlank c with
    | false => simp [hc]
    | true =>
      rw [hc] at h
      split at h
      · cases h
      · next d r' hr =>
        have hrne : skipBlanks r ≠ [] := by rw [hr]; exact List.cons_ne_nil _ _
        simp only [List.cons_append, skipBlanks_append hrne, hr]
        simpa [hc] using h
  · next hlong =>
    rw [Bool.not_eq_true'] at h
    have hnone := expect?_def_eq_none hlong h q
    split
    · next c r hp =>
      rw [hp] at hnone
      cases hnone
    · rw [Bool.not_eq_true', Bool.eq_false_iff, Ne, List.isPrefixOf_iff_prefix]
      intro hpre
      rw [Bool.eq_false_iff, Ne, List.isPrefixOf_iff_prefix] at h
      exact h ((List.prefix_append _ q).trans hpre)

lemma def_of_word_append {w x y : List Char} {c : Char} (hne : w ≠ []) (hce : c ≠ 'e')
    (hcf : c ≠ 'f') (h : w ++ c :: x = 'd' :: 'e' :: 'f' :: y) :
    ∃ v, w = 'd' :: 'e' :: 'f' :: v ∧ v ++ c :: x = y := by
  match w with
  | [] => exact absurd rfl hne
  | [a] =>
    injection h with _ h
    injection h with h _
    exact absurd h hce
  | [a, b] =>
    injection h with _ h
    injection h with _ h
    injection h with h _
    exact absurd h hcf
  | a :: b :: d :: v =>
    injection h with ha h
    injection h with hb h
    injection h with hd h
    exact ⟨v, by rw [ha, hb, hd], h⟩

/-- A word with something after it that keeps it from being the start of a hook. -/
lemma isDead_word {w r : List Char} {c : Char} (hw : ∀ a ∈ w, isBlank a = false) (hne : w ≠ [])
    (hce : c ≠ 'e') (hcf : c ≠ 'f')
    (hc : isBlank c = false ∨ ∃ d r', skipBlanks r = d :: r' ∧ d ≠ 'o') :
    isDead (w ++ c :: r) = true := by
  have hskip : skipBlanks (w ++ c :: r) = w ++ c :: r := by
    cases w with
    | nil => exact absurd rfl hne
    | cons a w =>
      have ha : ¬ isBlank a = true := by simp [hw a List.mem_cons_self]
      rw [skipBlanks, List.cons_append, List.dropWhile_cons_of_neg ha]
  rw [isDead, hskip]
  split
  · next x y h =>
    obtain ⟨v, hv, hrest⟩ := def_of_word_append hne hce hcf h
    cases v with
    | nil =>
      cases hrest
      rcases hc with hc | ⟨d, r', hr, hd⟩
      · simp [hc]
      · simp [hr, hd]
    | cons a v =>
      cases hrest
      have ha := hw x (by rw [hv]; simp)
      simp [ha]
  · rw [Bool.not_eq_true', Bool.eq_false_iff, Ne, List.isPrefixOf_iff_prefix]
    rintro ⟨u, hu⟩
    rw [List.append_assoc] at hu
    obtain ⟨v, -, hrest⟩ := def_of_word_append (y := []) hne hce hcf hu
    cases v <;> cases hrest

/-- These lines, whatever text follows them, yield these names. -/
def Reads (ls ns : List String) : Prop :=
  ∀ rest, scanFrom 0 true ((unlines ls).toList ++ rest) =
    ns.map String.toList ++ scanFrom 0 true rest

lemma toList_unlines_cons (l : String) (ls : List String) :
    (unlines (l :: ls)).toList = l.toList ++ '\n' :: (unlines ls).toList := by
  simp [unlines]

lemma toList_unlines_append (ls ms : List String) :
    (unlines (ls ++ ms)).toList = (unlines ls).toList ++ (unlines ms).toList := by
  induction ls with
  | nil => simp [unlines]
  | cons l ls ih => simp [toList_unlines_cons, ih]

namespace Reads

lemma nil : Reads [] [] := fun rest => by simp [unlines]

lemma append {ls ms ns os : List String} (h : Reads ls ns) (h' : Reads ms os) :
    Reads (ls ++ ms) (ns ++ os) := by
  intro rest
  rw [toList_unlines_append, List.append_assoc, h, h', List.map_append, List.append_assoc]

lemma flatMap {α : Type} {f : α → List String} {n : α → String} {as : List α}
    (h : ∀ a ∈ as, Reads (f a) [n a]) : Reads (as.flatMap f) (as.map n) := by
  induction as with
  | nil => exact nil
  | cons a as ih =>
    have hrest := ih fun b hb => h b (List.mem_cons_of_mem a hb)
    rw [List.flatMap_cons, List.map_cons]
    exact (h a List.mem_cons_self).append hrest

lemma empty_line : Reads [""] [] := by
  intro rest
  rw [toList_unlines_cons]
  exact scanFrom_empty_line rest

lemma dead_line {l : String} (hl : isDead l.toList = true) (hbreak : '\n' ∉ l.toList) : Reads [l] [] := by
  intro rest
  have htext : (unlines [l]).toList ++ rest = l.toList ++ '\n' :: rest := by
    simp [unlines]
  have hnone : hookAt? (l.toList ++ '\n' :: rest) = none := hookAt?_of_isDead hl _
  rw [htext]
  cases hs : l.toList with
  | nil =>
    rw [hs] at hnone
    exact scanFrom_of_none hnone
  | cons c r =>
    rw [hs, List.cons_append] at hnone
    rw [hs, List.mem_cons, not_or] at hbreak
    have hc : (c == '\n') = false := beq_eq_false_iff_ne.mpr (Ne.symm hbreak.1)
    rw [List.cons_append, scanFrom_of_none hnone, hc]
    exact scanFrom_to_break hbreak.2 rest

lemma hook_line {l : String} {tail more : List Char}
    (hl : l.toList = "    def on_".toList ++ tail ++ ("(self".toList ++ more)) (hne : tail ≠ [])
    (hw : ∀ c ∈ tail, isWord c = true) (hbreak : '\n' ∉ more) :
    Reads [l] [String.ofList ("on_".toList ++ tail)] := by
  intro rest
  have htext : (unlines [l]).toList ++ rest =
      "    def on_".toList ++ tail ++ ("(self".toList ++ (more ++ '\n' :: rest)) := by
    simp [unlines, hl]
  rw [htext, scanFrom_hook (hookAt?_declaration hne hw _), scanFrom_to_break hbreak]
  simp

lemma scan_eq {ls ns : List String} (h : Reads ls ns) : scan (unlines ls) = ns := by
  have hall := h []
  rw [List.append_nil] at hall
  rw [scan, hall]
  simp [scanFrom, Function.comp_def]

end Reads

end SceneBindings.HookScan
