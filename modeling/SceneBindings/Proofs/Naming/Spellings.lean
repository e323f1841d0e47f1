import Mathlib.Data.List.TakeWhile
import SceneBindings.Proofs.Naming.PartNames
import SceneBindings.Proofs.Naming.Stripping

/-!
# Spellings: one canonical name for all of them

A name is written with underscores, with spaces or in camel case, with the type word or its
abbreviation at either end, in small letters, and with the counter of a copy behind it. Its canonical
name is the same every time: its words with capitals, then the type word.
-/

namespace SceneBindings

namespace Text

variable {sep : Char → Bool} {cut : Char → Char → Bool}

/-- A word ends where a place to cut stands. -/
lemma Undivided.wordsCut_append_cut {w : List Char} {u b : Char} (hw : Undivided sep cut (w ++ [u]))
    (hb : sep b = false) (hcut : cut u b = true) (r : List Char) :
    wordsCut sep cut (w ++ u :: b :: r) = (w ++ [u]) :: wordsCut sep cut (b :: r) := by
  induction w with
  | nil => exact wordsCut_cons_cut (hw.clear u (by simp)) hb hcut r
  | cons a w ih =>
    have ha := hw.clear a (by simp)
    cases w with
    | nil =>
      have hau := hw.uncut a u (by simp)
      exact wordsCut_cons_cons ha (hw.clear u (by simp)) hau (ih hw.tail)
    | cons d w =>
      have had := hw.uncut a d (List.prefix_append [a, d] _).isInfix
      exact wordsCut_cons_cons ha (hw.clear d (by simp)) had (ih hw.tail)

/-- White space at the end adds no word. -/
lemma wordsCut_joinWith_append {u : Char} (hu : sep u = true) {ws : List (List Char)}
    (hws : ∀ w ∈ ws, Undivided sep cut w) {m : List Char} (hm : m = [] ∨ m = [u]) :
    wordsCut sep cut (joinWith [u] ws ++ m) = ws := by
  rcases hm with rfl | rfl
  · rw [List.append_nil, wordsCut_joinWith hu hws]
  · induction ws with
    | nil => exact wordsCut_sep hu []
    | cons w ws ih =>
      rw [List.forall_mem_cons] at hws
      by_cases hne : ws = []
      · rw [hne]
        exact hws.1.wordsCut_append_cons hu []
      · rw [joinWith_cons hne, List.append_assoc, List.cons_append, hws.1.wordsCut_append_cons hu,
          ih hws.2]

end Text

namespace Naming

open Text

/-! ### Letters and digits -/

section Letters

variable {c d : Char}

lemma isAlphanum_eq (c : Char) : c.isAlphanum = (c.isUpper || c.isLower || c.isDigit) := rfl

/-- A letter or digit that can follow the first letter of a word. -/
lemma follower (h : (d.isLower || d.isDigit) = true) : d.isAlphanum = true ∧ isUpper d = false ∧
    d.isUpper = false ∧ d.toLower = d := by
  have hascii : d.toNat < 128 := by
    refine isAlphanum_ascii ?_
    rw [isAlphanum_eq, Bool.or_assoc, h, Bool.or_true]
  have hall : ∀ n < 128, ((Char.ofNat n).isLower || (Char.ofNat n).isDigit) = true →
      (Char.ofNat n).isAlphanum = true ∧ isUpper (Char.ofNat n) = false ∧
        (Char.ofNat n).isUpper = false ∧ (Char.ofNat n).toLower = Char.ofNat n := by
    decide +kernel
  exact ascii_of_forall (p := fun d => (d.isLower || d.isDigit) = true → d.isAlphanum = true ∧
    isUpper d = false ∧ d.isUpper = false ∧ d.toLower = d) hall hascii h

/-- The first letter of a word. -/
lemma capital (h : c.isUpper = true) : c.isAlphanum = true ∧ isUpper c = true ∧
    c.toUpper = c ∧ c.toLower.toUpper = c := by
  have hascii : c.toNat < 128 := by
    refine isAlphanum_ascii ?_
    rw [isAlphanum_eq, h, Bool.true_or, Bool.true_or]
  have hall : ∀ n < 128, (Char.ofNat n).isUpper = true → (Char.ofNat n).isAlphanum = true ∧
      isUpper (Char.ofNat n) = true ∧ (Char.ofNat n).toUpper = Char.ofNat n ∧
        (Char.ofNat n).toLower.toUpper = Char.ofNat n := by
    decide +kernel
  exact ascii_of_forall (p := fun c => c.isUpper = true → c.isAlphanum = true ∧ isUpper c = true ∧
    c.toUpper = c ∧ c.toLower.toUpper = c) hall hascii h

lemma isDigit_of_ascii (h : d.isDigit = true) : isDigit d = true := by
  have hascii := isAlphanum_ascii (follower (by rw [h, Bool.or_true])).1
  rw [isDigit, digitValue?, if_pos (by omega), if_pos h]
  rfl

end Letters

/-! ### What stands behind a name -/

/-- What an editor puts behind a name: nothing, the counter of a copy, or the mark of an outdated
widget. -/
inductive IsTail : List Char → Prop where
  | none : IsTail []
  | counter {ds : List Char} (hne : ds ≠ []) (hds : ∀ d ∈ ds, d.isDigit = true) :
    IsTail (' ' :: '(' :: ds ++ [')'])
  | legacy : IsTail " (Legacy)".toList

/-- A text without a bracket that does not end with white space. No marker begins in it, whatever
stands behind it. -/
structure IsBody (s : List Char) : Prop where
  unbracketed : '(' ∉ s
  closed : ∀ u, u <:+ s → u ≠ [] → ∃ c ∈ u, isBlank c = false

section Tails

variable {s u m : List Char} {marker : MarkerLength}

lemma replaceMarkers_append (h : ∀ u, u <:+ s → u ≠ [] → ∀ n, marker (u ++ m) ≠ some (n + 1)) :
    replaceMarkers marker (s ++ m) = s ++ replaceMarkers marker m := by
  induction s with
  | nil => rfl
  | cons c r ih =>
    have hrest := ih fun u hu => h u (hu.trans (List.suffix_cons c r))
    have hnone : ∀ n, marker (c :: (r ++ m)) ≠ some (n + 1) :=
      h _ (List.suffix_refl _) (List.cons_ne_nil c r)
    rw [List.cons_append, replaceMarkers_of_none hnone, hrest, List.cons_append]

lemma IsBody.head_mem (hs : IsBody s) (hu : u <:+ s) (hne : u ≠ []) (m : List Char) :
    ∃ c ∈ u, ∃ r, (u ++ m).dropWhile isBlank = c :: r := by
  obtain ⟨d, hd, hblank⟩ := hs.closed u hu hne
  have hrest : u.dropWhile isBlank ≠ [] := by
    intro hnil
    rw [List.dropWhile_eq_nil_iff] at hnil
    rw [hnil d hd] at hblank
    cases hblank
  obtain ⟨c, r, hcr⟩ := List.exists_cons_of_ne_nil hrest
  refine ⟨c, (List.dropWhile_suffix isBlank).subset (by simp [hcr]), r ++ m, ?_⟩
  rw [List.dropWhile_append, hcr]
  rfl

lemma IsBody.replaceMarkers_append (hs : IsBody s) {IsKind : List Char → Prop}
    (F : Finds marker IsKind) (m : List Char) :
    replaceMarkers marker (s ++ m) = s ++ replaceMarkers marker m := by
  refine Naming.replaceMarkers_append fun u hu hne n hn => ?_
  obtain ⟨c, hc, r, hcr⟩ := hs.head_mem hu hne m
  obtain ⟨r', hr'⟩ := F.head hn
  rw [hcr, List.cons.injEq] at hr'
  exact hs.unbracketed (hu.subset (hr'.1 ▸ hc))

section Counter

variable {ds : List Char} (hds : ∀ d ∈ ds, d.isDigit = true)

include hds

/-- The mark of an outdated widget has letters, and a counter has none. -/
lemma toLower_ne_of_mem_counter {c : Char} (hc : c ∈ ' ' :: '(' :: ds ++ [')']) : c.toLower ≠ 'l' := by
  simp only [List.cons_append, List.mem_cons, List.mem_append, List.not_mem_nil, or_false] at hc
  rcases hc with rfl | rfl | hd | rfl
  · decide
  · decide
  · rw [(follower (by rw [hds c hd, Bool.or_true])).2.2.2]
    rintro rfl
    exact absurd (hds 'l' hd) (by decide)
  · decide

lemma replaceMarkers_legacy_counter :
    replaceMarkers legacyLength (' ' :: '(' :: ds ++ [')']) = ' ' :: '(' :: ds ++ [')'] :=
  replaceMarkers_legacy_of_forall fun _ => toLower_ne_of_mem_counter hds

lemma replaceMarkers_counter (hne : ds ≠ []) :
    replaceMarkers counterLength (' ' :: '(' :: ds ++ [')']) = [' '] := by
  have hcounter : IsCounter ('(' :: ds ++ [')']) := ⟨ds, hne, fun d hd => isDigit_of_ascii (hds d hd), rfl⟩
  have hwhole : (' ' :: '(' :: ds ++ [')']).dropWhile isBlank = '(' :: ds ++ [')'] ++ [] := by
    rw [List.append_nil]
    rfl
  have hlen : counterLength (' ' :: ('(' :: ds ++ [')'])) = some (('(' :: ds ++ [')']).length + 1) := by
    refine finds_counter.eq_some_iff.mpr ⟨_, _, hcounter, hwhole, ?_⟩
    have hblanks : blanks (' ' :: ('(' :: ds ++ [')'])) = 1 := rfl
    rw [hblanks]
    exact Nat.add_comm _ 1
  rw [List.cons_append, replaceMarkers_of_some hlen, List.drop_length]
  rfl

end Counter

/-- All that is left of a tail is a space. -/
lemma IsTail.replaceMarkers_eq (hm : IsTail m) :
    replaceMarkers counterLength (replaceMarkers legacyLength m) = [] ∨
      replaceMarkers counterLength (replaceMarkers legacyLength m) = [' '] := by
  cases hm with
  | none => exact .inl rfl
  | legacy => exact .inr (by decide +kernel)
  | counter hne hds =>
    rw [replaceMarkers_legacy_counter hds]
    exact .inr (replaceMarkers_counter hds hne)

/-- Cleaning takes the tail off and joins the words by underscores. -/
lemma cleanup_append_tail (hm : IsTail m) {ws : List (List Char)}
    (hws : ∀ w ∈ ws, w ≠ [] ∧ ∀ d ∈ w, isIdentifierChar d = true) :
    cleanup (joinWith [' '] ws ++ m) = joinWith ['_'] ws := by
  have hbody : IsBody (joinWith [' '] ws) := by
    constructor
    · intro hmem
      rcases mem_joinWith hmem with hmem | ⟨w, hw, hmem⟩
      · exact absurd (List.mem_singleton.mp hmem) (by decide)
      · exact absurd ((hws w hw).2 _ hmem) (by decide)
    · rintro u ⟨t, ht⟩ hu
      obtain ⟨c, hc⟩ := Option.isSome_iff_exists.mp (List.getLast?_isSome.mpr hu)
      have hlast : (joinWith [' '] ws).getLast? = some c := by
        rw [← ht, List.getLast?_append, hc]
        rfl
      obtain ⟨w, hw, hcw⟩ := mem_of_getLast?_joinWith (fun w hw => (hws w hw).1) hlast
      exact ⟨c, List.mem_of_getLast? hc, isBlank_of_isIdentifierChar ((hws w hw).2 c hcw)⟩
  rw [cleanup, hbody.replaceMarkers_append finds_legacy, hbody.replaceMarkers_append finds_counter, wordsBy,
    wordsCut_joinWith_append (by decide) (fun w hw => .of_clear (hws w hw).1 fun d hd =>
      isBlank_of_isIdentifierChar ((hws w hw).2 d hd)) hm.replaceMarkers_eq]

end Tails

/-! ### Words of a name -/

/-- A capital and, after it, small letters and digits, at least one. -/
def isNameWord : List Char → Bool
  | [] => false
  | c :: r => c.isUpper && !r.isEmpty && r.all fun d => d.isLower || d.isDigit

section Words

variable {b : List Char} {c d : Char}

/-- The first letter of a word and the others. -/
lemma exists_of_isNameWord (h : isNameWord b = true) : ∃ c r, b = c :: r ∧ c.isUpper = true ∧
    r ≠ [] ∧ ∀ d ∈ r, (d.isLower || d.isDigit) = true := by
  cases b with
  | nil => cases h
  | cons c r =>
    simp only [isNameWord, Bool.and_eq_true, Bool.not_eq_true', List.isEmpty_eq_false_iff,
      List.all_eq_true] at h
    exact ⟨c, r, rfl, h.1.1, h.1.2, h.2⟩

lemma small_followers {r : List Char} (hr : ∀ d ∈ r, (d.isLower || d.isDigit) = true) :
    small r = r :=
  (List.map_congr_left fun d hd => (follower (hr d hd)).2.2.2).trans (List.map_id r)

lemma undivided_of_followers {r : List Char} (hc : c.isAlphanum = true)
    (hr : ∀ d ∈ r, (d.isLower || d.isDigit) = true) : Undivided isWordGap isCamelStep (c :: r) where
  nonempty := List.cons_ne_nil c r
  clear d hd := by
    have hd : d.isAlphanum = true := by
      rcases List.mem_cons.mp hd with rfl | hd
      · exact hc
      · exact (follower (hr d hd)).1
    have hscore : d ≠ '_' := by
      rintro rfl
      exact absurd hd (by decide)
    rw [isWordGap, beq_false_of_ne hscore, Bool.false_or,
      isBlank_of_isIdentifierChar (by rw [isIdentifierChar, hd, Bool.true_or])]
  uncut x y := by
    rintro ⟨s, t, h⟩
    have hy : y ∈ r := by
      cases s with
      | nil =>
        rw [List.nil_append, List.cons_append, List.cons.injEq] at h
        simp [← h.2]
      | cons z s =>
        rw [List.cons_append, List.cons_append, List.cons.injEq] at h
        simp [← h.2]
    rw [isCamelStep, (follower (hr y hy)).2.2.1, Bool.and_false]

variable (h : isNameWord b = true)

include h

lemma isNameWord_ne_nil : b ≠ [] := by
  obtain ⟨c, r, rfl, -⟩ := exists_of_isNameWord h
  exact List.cons_ne_nil c r

lemma isPlain_of_isNameWord : IsPlain b := by
  obtain ⟨c, r, rfl, hc, -, hr⟩ := exists_of_isNameWord h
  exact List.forall_mem_cons.mpr ⟨(capital hc).1, fun d hd => (follower (hr d hd)).1⟩

lemma undivided_of_inCase {v : List Char} (hv : InCase b v) :
    Undivided isWordGap isCamelStep v := by
  obtain ⟨c, r, rfl, hc, -, hr⟩ := exists_of_isNameWord h
  rcases hv with rfl | rfl
  · exact undivided_of_followers (capital hc).1 hr
  · rw [small_cons, small_followers hr]
    exact undivided_of_followers (isAlphanum_toLower (capital hc).1) hr

lemma capitalize_of_inCase {v : List Char} (hv : InCase b v) : capitalize v = b := by
  obtain ⟨c, r, rfl, hc, -, hr⟩ := exists_of_isNameWord h
  obtain ⟨halnum, -, hupper, hback⟩ := capital hc
  have hrest : lower r = r := by
    rw [lower_eq_small fun d hd => ?_, small_followers hr]
    rw [isIdentifierChar, (follower (hr d hd)).1, Bool.true_or]
  rcases hv with rfl | rfl
  · rw [capitalize, hrest, upperLetter_ascii (isAlphanum_ascii halnum), hupper]
    rfl
  · rw [small_cons, small_followers hr, capitalize, hrest,
      upperLetter_ascii (isAlphanum_ascii (isAlphanum_toLower halnum)), hback]
    rfl

end Words

section Bases

variable {bases bs : List (List Char)} {short word : List Char}

/-- Words that can stand before a mark: a capital first in each, and at neither end of them all the
type word or the abbreviation. -/
structure IsBase (short word : List Char) (bases : List (List Char)) : Prop where
  ne_nil : bases ≠ []
  words : ∀ b ∈ bases, isNameWord b = true
  unlike : ∀ m ∈ [word, short],
    ¬ small m <+: small bases.flatten ∧ ¬ small m <:+ small bases.flatten

lemma nameWords_flatten (hwords : ∀ b ∈ bases, isNameWord b = true) :
    nameWords bases.flatten = bases := by
  induction bases with
  | nil => rfl
  | cons b bs ih =>
    rw [List.forall_mem_cons] at hwords
    have hb := undivided_of_inCase hwords.1 (.inl rfl)
    cases bs with
    | nil => rw [List.flatten_singleton, nameWords, hb.wordsCut_eq]
    | cons v vs =>
      obtain ⟨d, s, rfl, hd, -⟩ := exists_of_isNameWord (hwords.2 v (by simp))
      obtain ⟨c, r, rfl, -, hne, hr⟩ := exists_of_isNameWord hwords.1
      obtain ⟨w, u, rfl⟩ := (List.eq_nil_or_concat r).resolve_left hne
      have hdgap : isWordGap d = false := by
        have hv := undivided_of_inCase (hwords.2 (d :: s) (by simp)) (.inl rfl)
        exact hv.clear d List.mem_cons_self
      have hstep : isCamelStep u d = true := by
        rw [isCamelStep, hr u (by simp), hd]
        rfl
      have hrest := ih hwords.2
      rw [nameWords, List.flatten_cons, List.cons_append] at hrest
      rw [List.concat_eq_append, ← List.cons_append] at hb
      have hcut := hb.wordsCut_append_cut hdgap hstep (s ++ vs.flatten)
      rw [hrest] at hcut
      simpa [nameWords] using hcut

lemma pascal_flatten (hwords : ∀ b ∈ bases, isNameWord b = true) :
    pascal bases.flatten = joinWith ['_'] bases := by
  have hsame : bases.map capitalize = bases :=
    (List.map_congr_left fun b hb => capitalize_of_inCase (hwords b hb) (.inl rfl)).trans
      (List.map_id bases)
  rw [pascal, nameWords_flatten hwords, hsame]

/-- Words as they are or in small letters, with underscores between them. -/
lemma pascal_joinWith (hwords : ∀ b ∈ bases, isNameWord b = true) {f : List Char → List Char}
    (hf : ∀ b ∈ bases, InCase b (f b)) :
    pascal (joinWith ['_'] (bases.map f)) = joinWith ['_'] bases := by
  have hcut : nameWords (joinWith ['_'] (bases.map f)) = bases.map f := by
    refine wordsCut_joinWith rfl fun w hw => ?_
    obtain ⟨b, hb, rfl⟩ := List.mem_map.mp hw
    exact undivided_of_inCase (hwords b hb) (hf b hb)
  have hsame : (bases.map f).map capitalize = bases := by
    rw [List.map_map]
    exact (List.map_congr_left fun b hb => capitalize_of_inCase (hwords b hb) (hf b hb)).trans
      (List.map_id bases)
  rw [pascal, hcut, hsame]

namespace IsBase

variable (h : IsBase short word bases)

include h

lemma bare : IsBare short word bases where
  ne_nil := h.ne_nil
  words_ne_nil b hb := isNameWord_ne_nil (h.words b hb)
  plain b hb := isPlain_of_isNameWord (h.words b hb)
  unlike := h.unlike

lemma camel : IsCamel short word bases.flatten where
  ne_nil := by
    obtain ⟨b, bs, rfl⟩ := List.exists_cons_of_ne_nil h.ne_nil
    simp [isNameWord_ne_nil (h.words b (by simp))]
  plain := .flatten fun b hb => isPlain_of_isNameWord (h.words b hb)
  unlike := h.unlike
  first := by
    obtain ⟨b, bs, rfl⟩ := List.exists_cons_of_ne_nil h.ne_nil
    obtain ⟨c, r, rfl, hc, -⟩ := exists_of_isNameWord (h.words b (by simp))
    exact (capital hc).2.1
  last := by
    obtain ⟨bs, b, rfl⟩ := (List.eq_nil_or_concat bases).resolve_left h.ne_nil
    obtain ⟨c, r, rfl, -, hne, hr⟩ := exists_of_isNameWord (h.words b (by simp))
    obtain ⟨w, u, rfl⟩ := (List.eq_nil_or_concat r).resolve_left hne
    have hlast : (bs.concat (c :: w.concat u)).flatten = (bs.flatten ++ c :: w) ++ [u] := by simp
    rw [hlast, List.length_append, List.length_singleton, Nat.add_sub_cancel, upperAt_append_length]
    exact (follower (hr u (by simp))).2.1

end IsBase

end Bases

/-! ### Spellings -/

/-- The spellings of a name: its words with the type word or the abbreviation at one end, apart or
glued together. -/
inductive Spelled (bases : List (List Char)) (word short : List Char) : List Char → Prop where
  | apart {u : Char} {ws : List (List Char)} (hu : u = '_' ∨ u = ' ')
    (hws : ws ∈ orders bases word short) : Spelled bases word short (joinWith [u] ws)
  | small {u : Char} {ws : List (List Char)} (hu : u = '_' ∨ u = ' ')
    (hws : ws ∈ orders bases word short) : Spelled bases word short (joinWith [u] (ws.map small))
  | wordLast : Spelled bases word short (bases.flatten ++ word)
  | wordFirst : Spelled bases word short (word ++ bases.flatten)
  | shortLast : Spelled bases word short (bases.flatten ++ titled short)

section Spelled

variable {bases : List (List Char)} {short word s m : List Char}

lemma map_small_mem_orders {ws : List (List Char)} (hws : ws ∈ orders bases word short) :
    ws.map Naming.small ∈ orders (bases.map Naming.small) (Naming.small word) (Naming.small short) := by
  simp only [orders, List.mem_cons, List.not_mem_nil, or_false] at hws ⊢
  rcases hws with rfl | rfl | rfl | rfl <;> simp

lemma mem_of_mem_orders {ws : List (List Char)} (hws : ws ∈ orders bases word short) {w : List Char}
    (hw : w ∈ ws) : w = word ∨ w = short ∨ w ∈ bases := by
  simp only [orders, List.mem_cons, List.not_mem_nil, or_false] at hws
  rcases hws with rfl | rfl | rfl | rfl <;> simp at hw <;> tauto

lemma plain_of_mem_orders (hm : IsMark short word) (hb : IsBase short word bases)
    {ws : List (List Char)} (hws : ws ∈ orders bases word short) :
    ∀ w ∈ ws, w ≠ [] ∧ IsPlain w := by
  intro w hw
  rcases mem_of_mem_orders hws hw with rfl | rfl | hw
  · exact ⟨hm.word_ne_nil, hm.plain⟩
  · exact ⟨hm.short_ne_nil, hm.plain_short⟩
  · exact ⟨isNameWord_ne_nil (hb.words w hw), isPlain_of_isNameWord (hb.words w hw)⟩

lemma ne_nil_of_mem_orders {ws : List (List Char)} (hws : ws ∈ orders bases word short) : ws ≠ [] := by
  simp only [orders, List.mem_cons, List.not_mem_nil, or_false] at hws
  rcases hws with rfl | rfl | rfl | rfl <;> simp

/-- Underscores stay and spaces become underscores. -/
lemma cleanup_apart (hm : IsTail m) {u : Char} (hu : u = '_' ∨ u = ' ') {ws : List (List Char)}
    (hne : ws ≠ []) (hws : ∀ w ∈ ws, w ≠ [] ∧ IsPlain w) :
    cleanup (joinWith [u] ws ++ m) = joinWith ['_'] ws := by
  rcases hu with rfl | rfl
  · have hwhole : ∀ w ∈ [joinWith ['_'] ws], w ≠ [] ∧ ∀ d ∈ w, isIdentifierChar d = true := by
      rw [List.forall_mem_singleton]
      exact ⟨joinWith_ne_nil hne fun w hw => (hws w hw).1,
        IsPlain.identifier_joinWith fun w hw => (hws w hw).2⟩
    exact cleanup_append_tail hm hwhole
  · exact cleanup_append_tail hm fun w hw => ⟨(hws w hw).1, (hws w hw).2.identifier⟩

lemma cleanup_glued (hm : IsTail m) (hne : s ≠ []) (hs : IsPlain s) : cleanup (s ++ m) = s :=
  cleanup_apart hm (.inr rfl) (List.cons_ne_nil s []) (List.forall_mem_singleton.mpr ⟨hne, hs⟩)

/-- Whatever the spelling, the words without the mark remain, and capitals make them one name. -/
lemma pascal_stripMarker_cleanup (hm : IsMark short word) (hb : IsBase short word bases)
    (hs : Spelled bases word short s) (ht : IsTail m) :
    pascal (stripMarker (some word) (cleanup (s ++ m))) = joinWith ['_'] bases := by
  have hcamel := hb.camel
  cases hs with
  | @apart u ws hu hws =>
    rw [cleanup_apart ht hu (ne_nil_of_mem_orders hws) (plain_of_mem_orders hm hb hws),
      stripMarker_orders hm hb.bare (.inl rfl) (.inl rfl) hws]
    simpa using pascal_joinWith hb.words (f := id) fun _ _ => .inl rfl
  | @small u ws hu hws =>
    have hsmall : ∀ w ∈ ws.map small, w ≠ [] ∧ IsPlain w := by
      intro w hw
      obtain ⟨v, hv, rfl⟩ := List.mem_map.mp hw
      obtain ⟨hne, hplain⟩ := plain_of_mem_orders hm hb hws v hv
      exact ⟨by simpa [small] using hne, hplain.small⟩
    rw [cleanup_apart ht hu (by simpa using ne_nil_of_mem_orders hws) hsmall,
      stripMarker_orders hm hb.bare.small (.inr rfl) (.inr rfl) (map_small_mem_orders hws)]
    exact pascal_joinWith hb.words fun _ _ => .inr rfl
  | wordLast =>
    rw [cleanup_glued ht (by simp [hcamel.ne_nil]) (hcamel.plain.append hm.plain),
      stripMarker_glued_word_last hm hcamel, pascal_flatten hb.words]
  | wordFirst =>
    rw [cleanup_glued ht (by simp [hcamel.ne_nil]) (hm.plain.append hcamel.plain),
      stripMarker_glued_word_first hm hcamel, pascal_flatten hb.words]
  | shortLast =>
    rw [cleanup_glued ht (by simp [hcamel.ne_nil]) (hcamel.plain.append hm.plain_titled),
      stripMarker_glued_short_last hm hcamel, pascal_flatten hb.words]

end Spelled

end Naming

open Naming Text

/-- **All spellings of a name have one canonical name**: its words with capitals, and the type word. -/
theorem Name.normalize_spelled {c : Capability} {word : String} {short m s : List Char}
    {bases : List (List Char)} (hword : c.typeWord? = some word)
    (hshort : (short, word.toList) ∈ abbreviations) (hbase : IsBase short word.toList bases)
    (hs : Spelled bases word.toList short s) (hm : IsTail m) :
    Name.normalize (String.ofList (s ++ m)) c true =
      String.ofList (joinWith ['_'] (bases ++ [word.toList])) := by
  have hmark := isMark_of_mem hshort
  have hbasefor : baseFor word.toList (s ++ m) = joinWith ['_'] bases :=
    pascal_stripMarker_cleanup hmark hbase hs hm
  have hne : baseFor word.toList (s ++ m) ≠ [] := by
    rw [hbasefor]
    exact joinWith_ne_nil hbase.ne_nil fun b hb => isNameWord_ne_nil (hbase.words b hb)
  apply String.toList_inj.mp
  rw [Name.toList_normalize hword, String.toList_ofList, String.toList_ofList,
    withType_of_base hne, hbasefor, joinWith_concat hbase.ne_nil]

/-- Small letters, the abbreviation first, spaces and a counter. -/
theorem Name.normalize_btn_main_menu :
    Name.normalize "btn main menu (12)" .button true = "Main_Menu_Button" := by
  have hbase : IsBase "BTN".toList "Button".toList ["Main".toList, "Menu".toList] :=
    ⟨by decide, by decide, by decide⟩
  have hspelled : Spelled ["Main".toList, "Menu".toList] "Button".toList "BTN".toList
      "btn main menu".toList :=
    .small (.inr rfl) (by decide : ["BTN".toList, "Main".toList, "Menu".toList] ∈ _)
  have htail : IsTail " (12)".toList :=
    .counter (by decide : ['1', '2'] ≠ []) (List.all_eq_true.mp (by decide))
  have hword : Capability.button.typeWord? = some "Button" := rfl
  have hname : "btn main menu (12)" = String.ofList ("btn main menu".toList ++ " (12)".toList) := by
    decide +kernel
  rw [hname, Name.normalize_spelled hword (by decide) hbase hspelled htail]
  decide +kernel

end SceneBindings
