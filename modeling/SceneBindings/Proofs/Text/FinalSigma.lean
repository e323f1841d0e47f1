import Mathlib.Data.List.TakeWhile
import SceneBindings.Proofs.Text.LetterCase

/-!
The small form of a part of a text. Only the form of a sigma depends on what stands around it. So the
small form of a part stands in the small form of every text that holds the part, exactly if the part
itself decides the forms of all its sigmas.
-/

namespace SceneBindings.Text

variable {a b : Bool} {s t before after : List Char}

/-! ### What stands around a letter -/

/-- A text of nothing but marks does not hide what stands on its other side. -/
def IsOpen (s : List Char) : Prop := ∀ c ∈ s, isCaseIgnorable c = true

/-- Whether a cased letter stands at the end of a text, marks passed over, given whether one stands
before the text. -/
def casedPast (cased : Bool) : List Char → Bool
  | [] => cased
  | c :: r => casedPast (if isCaseIgnorable c then cased else isCased c) r

/-- Whether a cased letter stands at the head of a text, marks passed over, given whether one follows
the text. -/
def casedThen (s : List Char) (next : Bool) : Bool :=
  match s.dropWhile isCaseIgnorable with
  | [] => next
  | c :: _ => isCased c

lemma casedNext_eq (s : List Char) : casedNext s = casedThen s false := rfl

lemma casedThen_append (s t : List Char) (next : Bool) :
    casedThen (s ++ t) next = casedThen s (casedThen t next) := by
  induction s with
  | nil => rfl
  | cons c r ih =>
    rw [List.cons_append, casedThen, casedThen]
    by_cases hc : isCaseIgnorable c = true
    · rw [List.dropWhile_cons_of_pos hc, List.dropWhile_cons_of_pos hc]
      exact ih
    · rw [List.dropWhile_cons_of_neg hc, List.dropWhile_cons_of_neg hc]

lemma casedThen_of_isOpen (h : IsOpen s) (next : Bool) : casedThen s next = next := by
  rw [casedThen, List.dropWhile_eq_nil_iff.mpr h]

lemma casedThen_of_not_isOpen (h : ¬ IsOpen s) (next : Bool) : casedThen s next = casedNext s := by
  have hne : s.dropWhile isCaseIgnorable ≠ [] := fun hnil => h (List.dropWhile_eq_nil_iff.mp hnil)
  obtain ⟨c, r, hcr⟩ := List.exists_cons_of_ne_nil hne
  rw [casedThen, casedNext, hcr]

lemma casedPast_append (cased : Bool) (s t : List Char) :
    casedPast cased (s ++ t) = casedPast (casedPast cased s) t := by
  induction s generalizing cased with
  | nil => rfl
  | cons c r ih => exact ih _

lemma casedPast_of_isOpen (h : IsOpen s) (cased : Bool) : casedPast cased s = cased := by
  induction s with
  | nil => rfl
  | cons c r ih =>
    rw [IsOpen, List.forall_mem_cons] at h
    rw [casedPast, if_pos h.1]
    exact ih h.2

lemma casedPast_of_not_isOpen (h : ¬ IsOpen s) (cased : Bool) :
    casedPast cased s = casedPast false s := by
  induction s generalizing cased with
  | nil => exact absurd (List.forall_mem_nil _) h
  | cons c r ih =>
    rw [casedPast, casedPast]
    by_cases hc : isCaseIgnorable c = true
    · rw [if_pos hc, if_pos hc]
      exact ih (fun hr => h (List.forall_mem_cons.mpr ⟨hc, hr⟩)) cased
    · rw [if_neg hc, if_neg hc]

/-! ### The small form between two texts -/

/-- The small form of a text that follows a cased letter, if `cased` holds, and is followed by one, if
`next` holds. -/
def lowerBetween (cased next : Bool) : List Char → List Char
  | [] => []
  | c :: r =>
    (if c = 'Σ' then [if cased && !casedThen r next then 'ς' else 'σ'] else lowerLetter c) ++
      lowerBetween (if isCaseIgnorable c then cased else isCased c) next r

lemma lowerAfter_eq_lowerBetween (cased : Bool) (s : List Char) :
    lowerAfter cased s = lowerBetween cased false s := by
  induction s generalizing cased with
  | nil => rfl
  | cons c r ih => rw [lowerAfter, lowerBetween, ih, casedNext_eq]

lemma lower_eq_lowerBetween (s : List Char) : lower s = lowerBetween false false s :=
  lowerAfter_eq_lowerBetween false s

lemma lowerBetween_append (cased next : Bool) (s t : List Char) :
    lowerBetween cased next (s ++ t) =
      lowerBetween cased (casedThen t next) s ++ lowerBetween (casedPast cased s) next t := by
  induction s generalizing cased with
  | nil => rfl
  | cons c r ih =>
    rw [List.cons_append, lowerBetween, lowerBetween, casedPast, ih, casedThen_append,
      List.append_assoc]

/-- The form of one sigma shows what stands around it. -/
lemma lowerBetween_sigma (cased next : Bool) (before after : List Char) :
    lowerBetween cased next (before ++ 'Σ' :: after) = lowerBetween cased true before ++
      (if casedPast cased before && !casedThen after next then 'ς' else 'σ') ::
        lowerBetween true next after := by
  have hmark : isCaseIgnorable 'Σ' = false := by decide +kernel
  have hcased : isCased 'Σ' = true := by decide +kernel
  have hthen : casedThen ('Σ' :: after) next = true := by
    rw [casedThen, List.dropWhile_cons_of_neg (by rw [hmark]; decide)]
    exact hcased
  rw [lowerBetween_append, hthen, lowerBetween, if_pos rfl, hmark, hcased]
  rfl

/-- Marks are no sigmas. -/
lemma lowerBetween_of_isOpen (h : IsOpen s) (cased next : Bool) :
    lowerBetween cased next s = s.flatMap lowerLetter := by
  induction s generalizing cased with
  | nil => rfl
  | cons c r ih =>
    rw [IsOpen, List.forall_mem_cons] at h
    have hc : c ≠ 'Σ' := by
      rintro rfl
      exact absurd h.1 (by decide +kernel)
    rw [lowerBetween, if_neg hc, ih h.2, List.flatMap_cons]

/-! ### Decided sigmas -/

/-- The form of a sigma between two texts is the same whatever stands around these: a cased letter
follows; or something other than marks stands before it, and this ends with no cased letter or
something other than marks follows. -/
def Decides (before after : List Char) : Prop :=
  casedNext after = true ∨
    ¬ IsOpen before ∧ (casedPast false before = false ∨ ¬ IsOpen after)

lemma final_eq_of_decides (h : Decides before after) (cased next : Bool) :
    (casedPast cased before && !casedThen after next) =
      (casedPast false before && !casedThen after false) := by
  rcases h with hnext | ⟨hbefore, hpast | hafter⟩
  · have hclosed : ¬ IsOpen after := by
      intro hopen
      rw [casedNext_eq, casedThen_of_isOpen hopen] at hnext
      cases hnext
    rw [casedThen_of_not_isOpen hclosed, casedThen_of_not_isOpen hclosed, hnext, Bool.not_true,
      Bool.and_false, Bool.and_false]
  · rw [casedPast_of_not_isOpen hbefore, hpast, Bool.false_and, Bool.false_and]
  · rw [casedPast_of_not_isOpen hbefore, casedThen_of_not_isOpen hafter,
      casedThen_of_not_isOpen hafter]

/-- A text that decides all its sigmas has one small form. The induction is on the part that is left,
behind the part `before` that has been read. -/
lemma lowerBetween_of_decides (before : List Char)
    (h : ∀ u v, before ++ s = u ++ 'Σ' :: v → Decides u v) (cased next : Bool) :
    lowerBetween (casedPast cased before) next s =
      lowerBetween (casedPast false before) false s := by
  induction s generalizing before with
  | nil => rfl
  | cons c r ih =>
    have hread : ∀ cased, (if isCaseIgnorable c then casedPast cased before else isCased c) =
        casedPast cased (before ++ [c]) := fun cased => (casedPast_append cased before [c]).symm
    have hrest := ih (before ++ [c]) (by simpa using h)
    rw [lowerBetween, lowerBetween, hread, hread, hrest]
    congr 1
    by_cases hc : c = 'Σ'
    · subst hc
      rw [if_pos rfl, if_pos rfl, final_eq_of_decides (h before r rfl)]
    · rw [if_neg hc, if_neg hc]

/-- The small form of a part that decides its sigmas stands in that of every text with the part. -/
lemma lower_infix_of_decides (h : ∀ u v, s = u ++ 'Σ' :: v → Decides u v) (hs : s <:+: t) :
    lower s <:+: lower t := by
  obtain ⟨p, q, rfl⟩ := hs
  have hsame := lowerBetween_of_decides [] h (casedPast false p) (casedThen q false)
  refine ⟨lowerBetween false (casedThen s (casedThen q false)) p,
    lowerBetween (casedPast false (p ++ s)) false q, ?_⟩
  rw [lower_eq_lowerBetween, lower_eq_lowerBetween, lowerBetween_append, lowerBetween_append]
  exact congrArg (· ++ _) (congrArg (_ ++ ·) hsame.symm)

lemma letter_a : isCaseIgnorable 'a' = false ∧ isCased 'a' = true := by decide +kernel

/-- A letter before the part or behind it changes the form of a sigma that is not decided. The two
forms are told apart by how often they come. -/
lemma exists_not_infix (h : ¬ Decides before after) : ∃ t, before ++ 'Σ' :: after <:+: t ∧
    ¬ lower (before ++ 'Σ' :: after) <:+: lower t := by
  rw [Decides, not_or, Bool.not_eq_true, Classical.not_and_iff_not_or_not, Classical.not_not,
    not_or, Bool.not_eq_false, Classical.not_not] at h
  obtain ⟨hnext, hopen | ⟨hpast, hafter⟩⟩ := h
  · refine ⟨'a' :: (before ++ 'Σ' :: after), (List.suffix_cons _ _).isInfix, fun hinfix => ?_⟩
    have halone : lower (before ++ 'Σ' :: after) =
        before.flatMap lowerLetter ++ 'σ' :: lowerBetween true false after := by
      rw [lower_eq_lowerBetween, lowerBetween_sigma, lowerBetween_of_isOpen hopen,
        casedPast_of_isOpen hopen]
      rfl
    have hbehind : lower ('a' :: (before ++ 'Σ' :: after)) =
        'a' :: (before.flatMap lowerLetter ++ 'ς' :: lowerBetween true false after) := by
      rw [lower_eq_lowerBetween, lowerBetween, letter_a.1, letter_a.2, if_neg (by decide),
        if_neg (by decide), lowerBetween_sigma, lowerBetween_of_isOpen hopen,
        casedPast_of_isOpen hopen, ← casedNext_eq, hnext]
      rfl
    have hcount := hinfix.sublist.count_le 'σ'
    rw [halone, hbehind, List.count_cons_of_ne (by decide : 'a' ≠ 'σ'), List.count_append,
      List.count_append, List.count_cons_self,
      List.count_cons_of_ne (by decide : 'ς' ≠ 'σ')] at hcount
    omega
  · refine ⟨before ++ 'Σ' :: after ++ ['a'], (List.prefix_append _ _).isInfix, fun hinfix => ?_⟩
    have halone : lower (before ++ 'Σ' :: after) =
        lowerBetween false true before ++ 'ς' :: after.flatMap lowerLetter := by
      rw [lower_eq_lowerBetween, lowerBetween_sigma, lowerBetween_of_isOpen hafter, hpast,
        casedThen_of_isOpen hafter]
      rfl
    have hahead : lower (before ++ 'Σ' :: after ++ ['a']) =
        lowerBetween false true before ++ 'σ' :: (after.flatMap lowerLetter ++ ['a']) := by
      have hthen : casedThen ['a'] false = true := by decide +kernel
      have hlast : ∀ cased, lowerBetween cased false ['a'] = ['a'] := by decide +kernel
      rw [lower_eq_lowerBetween, lowerBetween_append, hthen, hlast, lowerBetween_sigma,
        lowerBetween_of_isOpen hafter, hpast, casedThen_of_isOpen hafter, List.append_assoc]
      rfl
    have hcount := hinfix.sublist.count_le 'ς'
    rw [halone, hahead, List.count_append, List.count_append, List.count_cons_self,
      List.count_cons_of_ne (by decide : 'σ' ≠ 'ς'), List.count_append,
      List.count_cons_of_ne (by decide : 'a' ≠ 'ς'), List.count_nil] at hcount
    omega

end SceneBindings.Text
