import Mathlib.Logic.Relation
import SceneBindings.Proofs.Naming.Canonical

/-!
# Normal forms of names

Cleaning reads a name twice, once for the mark of an outdated widget and once for counters. That is
enough: where a marker stood there is a gap from then on, so what stands around it never joins to
another marker. The clean name is what is left when the markers are taken out one by one, in any
order, until none is left; it has no marker and no white space, and cleaning it again does nothing.
-/

namespace SceneBindings

namespace Text

/-- Two texts that differ at most in the case of their letters: they have one small form, or one
large form. -/
def SameLetters (s t : List Char) : Prop := lower s = lower t ∨ upper s = upper t

lemma wordsBy_append_sep {sep : Char → Bool} {u : Char} (hu : sep u = true) (s t : List Char) :
    wordsBy sep (s ++ u :: t) = wordsBy sep s ++ wordsBy sep t :=
  wordsCut_append_sep hu s t

/-! ### Words in any place -/

/-- Two texts that can take each other's place without a change to the words. -/
def SameWords (s t : List Char) : Prop :=
  ∀ p q, wordsBy isBlank (p ++ s ++ q) = wordsBy isBlank (p ++ t ++ q)

namespace SameWords

variable {s t u v : List Char} {c d : Char}

@[refl] lemma refl (s : List Char) : SameWords s s := fun _ _ => rfl

@[symm] lemma symm (h : SameWords s t) : SameWords t s := fun p q => (h p q).symm

@[trans] lemma trans (h : SameWords s t) (h' : SameWords t u) : SameWords s u :=
  fun p q => (h p q).trans (h' p q)

instance : Trans SameWords SameWords SameWords := ⟨trans⟩

lemma append (h : SameWords s t) (h' : SameWords u v) : SameWords (s ++ u) (t ++ v) := by
  intro p q
  calc wordsBy isBlank (p ++ (s ++ u) ++ q) = wordsBy isBlank (p ++ s ++ (u ++ q)) := by simp
    _ = wordsBy isBlank (p ++ t ++ (u ++ q)) := h p (u ++ q)
    _ = wordsBy isBlank (p ++ t ++ u ++ q) := by simp
    _ = wordsBy isBlank (p ++ t ++ v ++ q) := h' (p ++ t) q
    _ = wordsBy isBlank (p ++ (t ++ v) ++ q) := by simp

lemma append_left (s : List Char) (h : SameWords u v) : SameWords (s ++ u) (s ++ v) :=
  (refl s).append h

lemma cons (c : Char) (h : SameWords s t) : SameWords (c :: s) (c :: t) := h.append_left [c]

lemma words_eq (h : SameWords s t) : wordsBy isBlank s = wordsBy isBlank t := by
  simpa using h [] []

/-- Any white space does for any other. -/
lemma blank (hc : isBlank c = true) (hd : isBlank d = true) (s : List Char) :
    SameWords (c :: s) (d :: s) := by
  intro p q
  simp only [List.append_assoc, List.cons_append, wordsBy_append_sep hc, wordsBy_append_sep hd]

/-- Two characters of white space are as good as one. -/
lemma blank_blank (hc : isBlank c = true) (hd : isBlank d = true) (s : List Char) :
    SameWords (c :: d :: s) (d :: s) := by
  intro p q
  have hskip : ∀ r, wordsBy isBlank (d :: r) = wordsBy isBlank r := wordsCut_sep hd
  simp only [List.append_assoc, List.cons_append, wordsBy_append_sep hc, wordsBy_append_sep hd, hskip]

end SameWords

end Text

namespace Naming

open Text

variable {s t u a b : List Char} {c : Char}

/-! ### Markers in any letter case -/

lemma isLegacy_of_lower (h : lower u = "(legacy)".toList) : IsLegacy u := by
  have hself : IsLegacy "(legacy)".toList := isLegacy_iff_map.mpr (by decide)
  have hmarks : ∀ x ∈ "(legacy)".toList, isMark x = true := List.all_eq_true.mp (by decide +kernel)
  have hprefix : "(legacy)".toList <+: lower u := h ▸ List.prefix_refl _
  obtain ⟨v, hv, hecho⟩ := echo_of_prefix_lowerAfter hmarks hprefix
  have hlen : u.length ≤ v.length :=
    calc u.length ≤ (lower u).length := length_le_lowerAfter false u
      _ = "(legacy)".toList.length := congrArg List.length h
      _ = v.length := hecho.length_eq
  rw [← hv.eq_of_length_le hlen]
  exact matches_echo (List.Subset.refl _) hself hecho

/-- Only ASCII letters have all of their large form in the marker. -/
lemma ascii_of_upperLetter (h : ∀ d ∈ upperLetter c, d ∈ "(LEGACY)".toList) : c.toNat < 128 := by
  have hexpansions : ∀ e ∈ upperExpansions,
      (e.2.map Char.ofNat).all ("(LEGACY)".toList.contains ·) = false := by decide +kernel
  have hruns : KeepsOff upperRuns ("(LEGACY)".toList.map fun d => between d.toNat d.toNat) := by
    decide +kernel
  have hascii : ∀ d ∈ "(LEGACY)".toList, d.toNat < 128 := by simp
  by_contra hc
  rcases upperLetter_cases (Nat.not_lt.mp hc) with ⟨e, he, hform⟩ | hform
  · refine ne_true_of_eq_false (hexpansions e he) (List.all_eq_true.mpr fun d hd => ?_)
    exact List.contains_iff_mem.mpr (h d (hform ▸ hd))
  · have hmem := h _ (hform ▸ List.mem_cons_self)
    rcases shiftCase_outside lands_upperRuns hruns c with heq | hout
    · exact hc (heq ▸ hascii _ hmem)
    · have hnot := not_contains_of_testBit hout (List.mem_map_of_mem hmem)
      exact ne_true_of_eq_false hnot (contains_between.mpr ⟨Nat.le_refl _, Nat.le_refl _⟩)

lemma map_toLower_upper (h : ∀ d ∈ upper u, d ∈ "(LEGACY)".toList) :
    (upper u).map Char.toLower = u.map Char.toLower := by
  induction u with
  | nil => rfl
  | cons c r ih =>
    have hboth : ∀ n < 128, (Char.ofNat n).toUpper.toLower = (Char.ofNat n).toLower := by
      decide +kernel
    rw [upper, List.flatMap_cons, List.forall_mem_append] at h
    have hc := ascii_of_upperLetter h.1
    rw [upper, List.flatMap_cons, upperLetter_ascii hc, List.map_append, List.map_cons,
      ascii_of_forall (p := fun c => c.toUpper.toLower = c.toLower) hboth hc]
    exact congrArg (c.toLower :: ·) (ih h.2)

/-- Comparing small forms, comparing large forms and searching with the case ignored all find the
same texts. -/
lemma isLegacy_iff : IsLegacy u ↔ SameLetters u "(Legacy)".toList := by
  have hlower : lower "(Legacy)".toList = "(legacy)".toList := by decide +kernel
  have hupper : upper "(Legacy)".toList = "(LEGACY)".toList := by decide +kernel
  rw [SameLetters, hlower, hupper]
  constructor
  · intro h
    have hascii : ∀ c ∈ u, c.toNat < 128 := by
      intro c hc
      obtain ⟨p, hp, hpc⟩ := exists_mem_of_forall₂ h c hc
      exact (toLower_eq_of_matchesLetter hp hpc).1
    exact .inl ((lower_of_ascii hascii).trans (isLegacy_iff_map.mp h))
  · rintro (h | h)
    · exact isLegacy_of_lower h
    · rw [isLegacy_iff_map, ← map_toLower_upper (h ▸ fun _ hd => hd), h]
      decide

/-! ### Texts that are read apart -/

lemma isBlank_of_isDigit (h : isDigit c = true) : isBlank c = false := by
  have hascii : ∀ n < 128, isDigit (Char.ofNat n) = true → isBlank (Char.ofNat n) = false := by
    decide +kernel
  have hzeros : ∀ z ∈ zeros, ∀ k < 10, isBlank (Char.ofNat (z + k)) = false := by decide +kernel
  by_cases hc : c.toNat < 128
  · exact ascii_of_forall (p := fun c => isDigit c = true → isBlank c = false) hascii hc h
  · rw [isDigit, digitValue?, if_neg hc, Option.isSome_map] at h
    obtain ⟨z, hz, hin⟩ := List.find?_isSome.mp h
    simp only [Bool.and_eq_true, decide_eq_true_eq] at hin
    have hdigit := hzeros z hz (c.toNat - z) (by omega)
    rwa [Nat.add_sub_cancel' hin.1, Char.ofNat_toNat] at hdigit

/-- No white space stands in a marker. -/
lemma isMark_of_isBlank (h : isBlank c = true) : isMark c = false := by
  rw [← Bool.not_eq_true]
  intro hmark
  rw [isMark, Bool.or_eq_true, List.any_eq_true] at hmark
  rcases hmark with hdigit | ⟨p, hp, hpc⟩
  · rw [isBlank_of_isDigit hdigit] at h
    cases h
  · have hascii : ∀ n < 128, isBlank (Char.ofNat n) = true →
        (Char.ofNat n).toLower ∉ "(legacy)".toList := by decide +kernel
    obtain ⟨hc, rfl⟩ := toLower_eq_of_matchesLetter hp hpc
    exact ascii_of_forall (p := fun c => isBlank c = true → c.toLower ∉ "(legacy)".toList) hascii
      hc h hp

/-- No marker begins in the first text and ends in the second. -/
def Apart (a b : List Char) : Prop :=
  ∀ p q, p ≠ [] → q ≠ [] → p <:+ a → q <+: b → ¬ IsMarker (p ++ q)

lemma Apart.part (h : Apart a b) (ht : t <:+ a) : Apart t b :=
  fun p q hp hq hpt => h p q hp hq (hpt.trans ht)

/-- Neither the bracket that opens a marker nor white space goes on with one. -/
lemma apart_of_head (hc : c = '(' ∨ isBlank c = true) (a b : List Char) : Apart a (c :: b) := by
  rintro p q hp hq - hqb hmarker
  obtain ⟨d, q, rfl⟩ := List.exists_cons_of_ne_nil hq
  obtain ⟨e, p, rfl⟩ := List.exists_cons_of_ne_nil hp
  obtain ⟨rfl, -⟩ := List.cons_prefix_cons.mp hqb
  rcases hc with rfl | hblank
  · obtain ⟨v, heq, hopen, -⟩ := hmarker.brackets
    have htail : p ++ '(' :: q = v ++ [')'] := (List.cons.inj heq).2
    have hmem : '(' ∈ v ++ [')'] := htail ▸ List.mem_append_right p List.mem_cons_self
    exact (List.mem_append.mp hmem).elim hopen (by decide)
  · exact hmarker.not_mem (isMark_of_isBlank hblank) (by simp)

lemma IsMarker.apart_left (h : IsMarker u) (a b : List Char) : Apart a (u ++ b) := by
  obtain ⟨v, rfl⟩ := h.exists_eq_cons
  exact apart_of_head (.inl rfl) a (v ++ b)

lemma IsMarker.apart_right (h : IsMarker u) (b : List Char) : Apart u b := by
  rintro p q hp hq hpu - hmarker
  obtain ⟨v, rfl, -, -⟩ := h.brackets
  obtain ⟨w, heq, -, hclose⟩ := hmarker.brackets
  obtain ⟨p, y, rfl⟩ := (List.eq_nil_or_concat' p).resolve_left hp
  obtain ⟨q, z, rfl⟩ := (List.eq_nil_or_concat' q).resolve_left hq
  obtain ⟨t, ht⟩ := hpu
  rw [← List.append_assoc] at ht heq
  -- `p` ends with the bracket that closes `u`, and more of the other marker follows
  have hy : [y] = [')'] := (List.append_inj' ht rfl).2
  have hw : p ++ [y] ++ q = '(' :: w := (List.append_inj' heq rfl).1
  have hmem : ')' ∈ '(' :: w := by
    rw [← hw, hy]
    simp
  exact hclose ((List.mem_cons.mp hmem).resolve_left (by decide))

/-! ### One pass over a text -/

namespace Finds

variable {marker : MarkerLength} {IsKind : List Char → Prop} (F : Finds marker IsKind)

include F

/-- White space stays, or it goes with the marker behind it, in whose place there is a space. -/
lemma replace_blank (hc : isBlank c = true) (s : List Char) :
    SameWords (replaceMarkers marker (c :: s)) (c :: replaceMarkers marker s) := by
  have hdrop : (c :: s).dropWhile isBlank = s.dropWhile isBlank := List.dropWhile_cons_of_pos hc
  have hblanks : blanks (c :: s) = blanks s + 1 := by
    rw [blanks, List.takeWhile_cons_of_pos hc, List.length_cons, blanks]
  by_cases hsome : ∃ n, marker (c :: s) = some (n + 1)
  · obtain ⟨n, hn⟩ := hsome
    obtain ⟨u, r, hu, heq, hlen⟩ := F.eq_some_iff.mp hn
    have hpos := List.length_pos_iff.mpr (F.isMarker hu).ne_nil
    rw [hdrop] at heq
    rw [hblanks] at hlen
    obtain ⟨m, rfl⟩ : ∃ m, n = m + 1 := ⟨n - 1, by omega⟩
    have hm : marker s = some (m + 1) := F.eq_some_iff.mpr ⟨u, r, hu, heq, by omega⟩
    cases s with
    | nil => exact absurd (List.append_eq_nil_iff.mp heq.symm).1 (F.isMarker hu).ne_nil
    | cons d s =>
      rw [replaceMarkers_of_some hn, replaceMarkers_of_some hm, List.drop_succ_cons]
      exact (SameWords.blank_blank hc (by decide) _).symm
  · rw [replaceMarkers_of_none (not_exists.mp hsome)]

/-- A character at which no marker begins stays. -/
lemma replace_cons (h : ∀ u, IsKind u → ¬ u <+: c :: s) :
    SameWords (replaceMarkers marker (c :: s)) (c :: replaceMarkers marker s) := by
  by_cases hc : isBlank c = true
  · exact F.replace_blank hc s
  · have hnone : ∀ n, marker (c :: s) ≠ some (n + 1) := by
      intro n hn
      obtain ⟨u, r, hu, heq, -⟩ := F.eq_some_iff.mp hn
      rw [List.dropWhile_cons_of_neg hc] at heq
      exact h u hu ⟨r, heq.symm⟩
    rw [replaceMarkers_of_none hnone]

lemma replace_blanks (s : List Char) : SameWords (' ' :: replaceMarkers marker (s.dropWhile isBlank))
    (' ' :: replaceMarkers marker s) := by
  induction s with
  | nil => exact .refl _
  | cons c r ih =>
    by_cases hc : isBlank c = true
    · rw [List.dropWhile_cons_of_pos hc]
      calc SameWords (' ' :: replaceMarkers marker (r.dropWhile isBlank))
            (' ' :: replaceMarkers marker r) := ih
        SameWords _ (c :: replaceMarkers marker r) := .blank (by decide) hc _
        SameWords _ (' ' :: c :: replaceMarkers marker r) :=
          (SameWords.blank_blank (by decide) hc _).symm
        SameWords _ (' ' :: replaceMarkers marker (c :: r)) := (F.replace_blank hc r).symm.cons ' '
    · rw [List.dropWhile_cons_of_neg hc]

/-- A marker leaves a space. -/
lemma replace_marker (hu : IsKind u) (s : List Char) :
    SameWords (replaceMarkers marker (u ++ s)) (' ' :: replaceMarkers marker s) := by
  obtain ⟨v, rfl⟩ := (F.isMarker hu).exists_eq_cons
  have hdrop : ('(' :: v ++ s).dropWhile isBlank = '(' :: v ++ s :=
    List.dropWhile_cons_of_neg (by decide)
  have hlen : marker ('(' :: (v ++ s)) = some (v.length + blanks s + 1) := by
    refine F.eq_some_iff.mpr ⟨'(' :: v, s, hu, hdrop, ?_⟩
    have hblanks : blanks ('(' :: (v ++ s)) = 0 := rfl
    rw [hblanks, List.length_cons]
    omega
  rw [List.cons_append, replaceMarkers_of_some hlen, ← List.drop_drop, List.drop_left, drop_blanks]
  exact F.replace_blanks s

/-- Two texts that no marker joins are read one after the other. The induction follows the pass, from
marker to marker and from character to character. -/
lemma replace_append (h : Apart a b) : SameWords (replaceMarkers marker (a ++ b))
    (replaceMarkers marker a ++ replaceMarkers marker b) := by
  induction hn : a.length using Nat.strongRecOn generalizing a with
  | ind n ih =>
    by_cases hhead : ∃ u, IsKind u ∧ u <+: a
    · obtain ⟨u, hu, t, rfl⟩ := hhead
      have hshort : t.length < n := by
        have hpos := List.length_pos_iff.mpr (F.isMarker hu).ne_nil
        rw [← hn, List.length_append]
        omega
      have hrest := ih _ hshort (h.part (List.suffix_append u t)) rfl
      rw [List.append_assoc]
      calc SameWords (replaceMarkers marker (u ++ (t ++ b)))
            (' ' :: replaceMarkers marker (t ++ b)) := F.replace_marker hu _
        SameWords _ (' ' :: (replaceMarkers marker t ++ replaceMarkers marker b)) := hrest.cons ' '
        SameWords _ (replaceMarkers marker (u ++ t) ++ replaceMarkers marker b) :=
          (F.replace_marker hu t).symm.append (.refl _)
    · rw [not_exists] at hhead
      cases a with
      | nil => exact .refl _
      | cons c a =>
        have hnone : ∀ u, IsKind u → ¬ u <+: c :: (a ++ b) := by
          intro u hu hpre
          rcases List.prefix_or_prefix_of_prefix hpre (List.prefix_append (c :: a) b) with hin | hin
          · exact hhead u ⟨hu, hin⟩
          · obtain ⟨q, rfl⟩ := hin
            have hq : q ≠ [] := by
              rintro rfl
              exact hhead _ ⟨hu, [], by simp⟩
            exact h (c :: a) q (List.cons_ne_nil c a) hq (List.suffix_refl _)
              ((List.prefix_append_right_inj (c :: a)).mp hpre) (F.isMarker hu)
        have hrest := ih a.length (by simp [← hn]) (h.part (List.suffix_cons c a)) rfl
        calc SameWords (replaceMarkers marker (c :: (a ++ b)))
              (c :: replaceMarkers marker (a ++ b)) := F.replace_cons hnone
          SameWords _ (c :: (replaceMarkers marker a ++ replaceMarkers marker b)) := hrest.cons c
          SameWords _ (replaceMarkers marker (c :: a) ++ replaceMarkers marker b) :=
            (F.replace_cons fun u hu hpre => hhead u ⟨hu, hpre⟩).symm.append (.refl _)

lemma replace_gap (hc : isBlank c = true) (a b : List Char) :
    SameWords (replaceMarkers marker (a ++ c :: b))
      (replaceMarkers marker a ++ c :: replaceMarkers marker b) :=
  (F.replace_append (apart_of_head (.inr hc) a b)).trans ((F.replace_blank hc b).append_left _)

/-- A marker of the kind that is looked for leaves a space between its two sides. -/
lemma replace_own (hu : IsKind u) (a b : List Char) :
    SameWords (replaceMarkers marker (a ++ (u ++ b)))
      (replaceMarkers marker a ++ ' ' :: replaceMarkers marker b) :=
  (F.replace_append ((F.isMarker hu).apart_left a b)).trans ((F.replace_marker hu b).append_left _)

/-- Another marker stays between its two sides. -/
lemma replace_other (hu : IsMarker u) (hself : replaceMarkers marker u = u) (a b : List Char) :
    SameWords (replaceMarkers marker (a ++ (u ++ b)))
      (replaceMarkers marker a ++ (u ++ replaceMarkers marker b)) := by
  have hinner := F.replace_append (hu.apart_right b)
  rw [hself] at hinner
  exact (F.replace_append (hu.apart_left a b)).trans (hinner.append_left _)

/-- A pass reads each word by itself. -/
lemma words_replaceMarkers (s : List Char) : wordsBy isBlank (replaceMarkers marker s) =
    (wordsBy isBlank s).flatMap fun w => wordsBy isBlank (replaceMarkers marker w) := by
  induction hn : s.length using Nat.strongRecOn generalizing s with
  | ind n ih =>
    by_cases hgap : ∃ c ∈ s, isBlank c = true
    · obtain ⟨c, hc, hblank⟩ := hgap
      obtain ⟨a, b, rfl⟩ := List.append_of_mem hc
      rw [List.length_append, List.length_cons] at hn
      rw [(F.replace_gap hblank a b).words_eq, wordsBy_append_sep hblank, wordsBy_append_sep hblank,
        List.flatMap_append, ih a.length (by omega) a rfl, ih b.length (by omega) b rfl]
    · cases s with
      | nil => rfl
      | cons c r =>
        have hclear : ∀ d ∈ c :: r, isBlank d = false := fun d hd =>
          eq_false_of_ne_true fun hblank => hgap ⟨d, hd, hblank⟩
        have hword : wordsBy isBlank (c :: r) = [c :: r] :=
          (Undivided.of_clear (List.cons_ne_nil c r) hclear).wordsCut_eq
        rw [hword, List.flatMap_singleton]

lemma words_congr (h : wordsBy isBlank s = wordsBy isBlank t) :
    wordsBy isBlank (replaceMarkers marker s) = wordsBy isBlank (replaceMarkers marker t) := by
  rw [F.words_replaceMarkers s, F.words_replaceMarkers t, h]

end Finds

/-! ### Markers taken out one by one -/

/-- One marker has given way to a space. -/
inductive TakesOut : List Char → List Char → Prop where
  | mk (a b : List Char) {u : List Char} (hu : IsMarker u) :
    TakesOut (a ++ (u ++ b)) (a ++ ' ' :: b)

/-- What becomes of a name when markers are taken out of it one by one until none is left, and the
words that then remain are joined by underscores. -/
def NormalForm (s n : List Char) : Prop :=
  ∃ t, Relation.ReflTransGen TakesOut s t ∧ Unmarked t ∧ n = joinWith ['_'] (wordsBy isBlank t)

lemma toLower_ne_of_isDigit (h : isDigit c = true) : c.toLower ≠ 'l' := by
  have hascii : ∀ n < 128, isDigit (Char.ofNat n) = true → (Char.ofNat n).toLower ≠ 'l' := by
    decide +kernel
  by_cases hc : c.toNat < 128
  · exact ascii_of_forall (p := fun c => isDigit c = true → c.toLower ≠ 'l') hascii hc h
  · rw [toLower_of_le (Nat.not_lt.mp hc)]
    rintro rfl
    exact hc (by decide)

lemma replaceMarkers_legacy_of_counter (hu : IsCounter u) : replaceMarkers legacyLength u = u := by
  obtain ⟨ds, -, hds, rfl⟩ := hu
  refine replaceMarkers_legacy_of_forall ?_
  rw [List.cons_append, List.forall_mem_cons, List.forall_mem_append, List.forall_mem_singleton]
  exact ⟨by decide, fun d hd => toLower_ne_of_isDigit (hds d hd), by decide⟩

/-- It does not matter to the words whether a marker is there or a space. A counter is still there
after the first pass, and there are no new markers around it. -/
lemma words_takesOut (h : TakesOut s t) :
    wordsBy isBlank (replaceMarkers counterLength (replaceMarkers legacyLength s)) =
      wordsBy isBlank (replaceMarkers counterLength (replaceMarkers legacyLength t)) := by
  obtain ⟨a, b, hu⟩ := h
  have hspace := finds_legacy.replace_gap (c := ' ') (by decide) a b
  rcases isMarker_iff.mp hu with hlegacy | hcounter
  · have hown := finds_legacy.replace_own hlegacy a b
    exact finds_counter.words_congr (hown.trans hspace.symm).words_eq
  · have hother := finds_legacy.replace_other hu (replaceMarkers_legacy_of_counter hcounter) a b
    have hown := finds_counter.replace_own hcounter (replaceMarkers legacyLength a)
      (replaceMarkers legacyLength b)
    have hgap := finds_counter.replace_gap (c := ' ') (by decide) (replaceMarkers legacyLength a)
      (replaceMarkers legacyLength b)
    rw [finds_counter.words_congr hother.words_eq, finds_counter.words_congr hspace.words_eq]
    exact (hown.trans hgap.symm).words_eq

lemma cleanup_takesOut (h : TakesOut s t) : cleanup s = cleanup t := by
  rw [cleanup, cleanup, words_takesOut h]

lemma TakesOut.length_lt (h : TakesOut s t) : t.length < s.length := by
  obtain ⟨a, b, hu⟩ := h
  obtain ⟨v, rfl, -, -⟩ := hu.brackets
  simp only [List.length_append, List.length_cons, List.length_nil]
  omega

lemma exists_unmarked (s : List Char) : ∃ t, Relation.ReflTransGen TakesOut s t ∧ Unmarked t := by
  induction hn : s.length using Nat.strongRecOn generalizing s with
  | ind n ih =>
    by_cases hs : Unmarked s
    · exact ⟨s, .refl, hs⟩
    · obtain ⟨u, hu, a, b, rfl⟩ : ∃ u, IsMarker u ∧ u <:+: s := by
        simpa only [Unmarked, not_forall, not_not, exists_prop] using hs
      have hstep : TakesOut (a ++ u ++ b) (a ++ ' ' :: b) := by
        rw [List.append_assoc]
        exact .mk a b hu
      obtain ⟨t, ht, hfree⟩ := ih _ (hn ▸ hstep.length_lt) _ rfl
      exact ⟨t, .head hstep ht, hfree⟩

/-- Every name has one normal form, to which all orders of taking out the markers lead. -/
lemma normalForm_iff {n : List Char} : NormalForm s n ↔ n = cleanup s := by
  have heq : ∀ t, Relation.ReflTransGen TakesOut s t → cleanup s = cleanup t := by
    intro t ht
    induction ht with
    | refl => rfl
    | tail _ hstep ih => exact ih.trans (cleanup_takesOut hstep)
  constructor
  · rintro ⟨t, ht, hfree, rfl⟩
    rw [heq t ht, cleanup_of_unmarked hfree]
  · rintro rfl
    obtain ⟨t, ht, hfree⟩ := exists_unmarked s
    exact ⟨t, ht, hfree, by rw [heq t ht, cleanup_of_unmarked hfree]⟩

/-- Cleaning leaves clean names alone, and no others. -/
lemma cleanup_eq_self_iff : cleanup s = s ↔ IsClean s := by
  constructor
  · exact fun h => h ▸ isClean_cleanup s
  · intro h
    by_cases hs : s = []
    · rw [hs]
      rfl
    · exact h.cleanup_eq hs

end Naming

lemma Name.toList_cleanup (s : String) : (Name.cleanup s).toList = Naming.cleanup s.toList :=
  String.toList_ofList

/-- **Cleaning reaches the normal form in one go.** The clean name holds no white space, no mark of an
outdated widget in any letter case and no counter in the digits of any script. Cleaning it again
changes nothing, and it is the one normal form of the name, in whatever order the markers are taken
out. -/
theorem Name.cleanup_normal (s : String) :
    (∀ c ∈ (Name.cleanup s).toList, Text.isBlank c = false) ∧
    (¬ ∃ u, u <:+: (Name.cleanup s).toList ∧ Text.SameLetters u "(Legacy)".toList) ∧
    (¬ ∃ ds, ds ≠ [] ∧ (∀ d ∈ ds, Text.isDigit d = true) ∧
      '(' :: ds ++ [')'] <:+: (Name.cleanup s).toList) ∧
    Name.cleanup (Name.cleanup s) = Name.cleanup s ∧
    ∀ n, Naming.NormalForm s.toList n ↔ n = (Name.cleanup s).toList := by
  have htext : (Name.cleanup s).toList = Naming.cleanup s.toList := Name.toList_cleanup s
  have hclean : Naming.IsClean (Name.cleanup s).toList := htext ▸ Naming.isClean_cleanup s.toList
  refine ⟨hclean.unspaced, ?_, ?_, ?_, ?_⟩
  · rintro ⟨u, hin, hsame⟩
    exact hclean.unmarked u (.legacy (Naming.isLegacy_iff.mpr hsame)) hin
  · rintro ⟨ds, hne, hds, hin⟩
    exact hclean.unmarked _ (.counter hne hds) hin
  · rw [← String.toList_inj, Name.toList_cleanup, Naming.cleanup_eq_self_iff.mpr hclean]
  · intro n
    rw [Naming.normalForm_iff, htext]

/-- What is left of a marker with another one inside is no marker. -/
example : Name.cleanup "Menu (Leg(1)acy)(2(LEGACY)) " = "Menu_(Leg_acy)(2_)" := by decide +kernel

end SceneBindings
