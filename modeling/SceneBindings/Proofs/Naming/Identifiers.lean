import Mathlib.Tactic.Lemma
import SceneBindings.Naming.Name
import SceneBindings.Text.Word

/-!
Sanitized names consist of ASCII letters, digits and underscores, and so do their small forms.
-/

namespace SceneBindings

namespace Text

lemma isAlphanum_iff {c : Char} : c.isAlphanum = true ↔
    48 ≤ c.toNat ∧ c.toNat ≤ 57 ∨ 65 ≤ c.toNat ∧ c.toNat ≤ 90 ∨ 97 ≤ c.toNat ∧ c.toNat ≤ 122 := by
  have hranges : c.isAlphanum = (decide (65 ≤ c.val ∧ c.val ≤ 90) ||
      decide (97 ≤ c.val) && decide (c.val ≤ 122) || decide (48 ≤ c.val) && decide (c.val ≤ 57)) := rfl
  rw [hranges]
  simp only [Bool.or_eq_true, Bool.and_eq_true, decide_eq_true_eq, UInt32.le_iff_toNat_le, Char.toNat]
  constructor
  · rintro ((h | h) | h)
    · exact .inr (.inl h)
    · exact .inr (.inr h)
    · exact .inl h
  · rintro (h | h | h)
    · exact .inr h
    · exact .inl (.inl h)
    · exact .inl (.inr h)

lemma mem_joinWith {sep : List Char} {ws : List (List Char)} {c : Char}
    (h : c ∈ joinWith sep ws) : c ∈ sep ∨ ∃ w ∈ ws, c ∈ w := by
  induction ws with
  | nil => cases h
  | cons w ws ih =>
    cases ws with
    | nil => exact .inr ⟨w, List.mem_cons_self, h⟩
    | cons v vs =>
      rw [joinWith, List.mem_append, List.mem_append] at h
      · rcases h with (h | h) | h
        · exact .inr ⟨w, List.mem_cons_self, h⟩
        · exact .inl h
        · obtain h | ⟨u, hu, hc⟩ := ih h
          · exact .inl h
          · exact .inr ⟨u, List.mem_cons_of_mem _ hu, hc⟩
      · exact List.cons_ne_nil v vs

/-! ### Words and their separators -/

variable {sep : Char → Bool} {cut : Char → Char → Bool}

lemma wordsCut_sep {u : Char} (hu : sep u = true) (r : List Char) :
    wordsCut sep cut (u :: r) = wordsCut sep cut r := by
  rw [wordsCut.eq_def]
  exact if_pos hu

/-- A character stands alone, or it begins the first word of what follows. -/
lemma wordsCut_cons {c : Char} (hc : sep c = false) (r : List Char) :
    wordsCut sep cut (c :: r) = [c] :: wordsCut sep cut r ∨
      ∃ d r' w ws, r = d :: r' ∧ sep d = false ∧ wordsCut sep cut r = w :: ws ∧
        wordsCut sep cut (c :: r) = (c :: w) :: ws := by
  rw [wordsCut.eq_def sep cut (c :: r)]
  dsimp only
  rw [if_neg (ne_true_of_eq_false hc)]
  split
  · next d r' w ws hr =>
    split
    · exact .inl (by rw [hr])
    · next hcut =>
      rw [Bool.or_eq_true, not_or, Bool.not_eq_true] at hcut
      exact .inr ⟨d, r', w, ws, rfl, hcut.1, hr, rfl⟩
  · exact .inl rfl

/-- A text that begins with no separator begins with its first word. -/
lemma prefix_of_wordsCut {c : Char} {r v : List Char} {vs : List (List Char)} (hc : sep c = false)
    (hv : wordsCut sep cut (c :: r) = v :: vs) : v <+: c :: r := by
  induction r generalizing c v vs with
  | nil =>
    obtain h | ⟨d, r', w, ws, h, -⟩ := @wordsCut_cons sep cut c hc []
    · rw [h] at hv
      cases hv
      exact List.prefix_refl _
    · cases h
  | cons e r ih =>
    obtain h | ⟨d, r', w, ws, heq, hd, hr, h⟩ := @wordsCut_cons sep cut c hc (e :: r)
    · rw [h] at hv
      cases hv
      exact ⟨_, rfl⟩
    · rw [h] at hv
      cases hv
      cases heq
      exact (List.prefix_cons_inj c).mpr (ih hd hr)

/-- The words of a text are contiguous parts of it. -/
lemma infix_of_mem_wordsCut {s w : List Char} (hw : w ∈ wordsCut sep cut s) : w <:+: s := by
  induction s generalizing w with
  | nil => cases hw
  | cons c r ih =>
    have hrest : ∀ {v}, v ∈ wordsCut sep cut r → v <:+: c :: r :=
      fun hv => (ih hv).trans (List.suffix_cons c r).isInfix
    by_cases hc : sep c = true
    · rw [wordsCut_sep hc] at hw
      exact hrest hw
    · rw [Bool.not_eq_true] at hc
      obtain h | ⟨d, r', v, vs, heq, hd, hr, h⟩ := @wordsCut_cons sep cut c hc r
      · rw [h] at hw
        rcases List.mem_cons.mp hw with rfl | hw
        · exact (List.prefix_append [c] r).isInfix
        · exact hrest hw
      · have hvs : ∀ x ∈ vs, x ∈ wordsCut sep cut r := fun x hx => hr ▸ List.mem_cons_of_mem v hx
        rw [h] at hw
        rcases List.mem_cons.mp hw with rfl | hw
        · exact (prefix_of_wordsCut hc h).isInfix
        · exact hrest (hvs w hw)

/-- Words grow from single characters by characters before them. -/
lemma forall_mem_wordsCut {p : List Char → Prop} (hone : ∀ c, sep c = false → p [c])
    (hmore : ∀ c w, sep c = false → p w → p (c :: w)) {s : List Char} :
    ∀ w ∈ wordsCut sep cut s, p w := by
  induction s with
  | nil => exact List.forall_mem_nil _
  | cons a r ih =>
    by_cases ha : sep a = true
    · rw [wordsCut_sep ha]
      exact ih
    · rw [Bool.not_eq_true] at ha
      obtain h | ⟨-, -, v, vs, -, -, hr, h⟩ := @wordsCut_cons sep cut a ha r
      · rw [h, List.forall_mem_cons]
        exact ⟨hone a ha, ih⟩
      · rw [hr, List.forall_mem_cons] at ih
        rw [h, List.forall_mem_cons]
        exact ⟨hmore a v ha ih.1, ih.2⟩

lemma mem_wordsCut {s w : List Char} {c : Char} (hw : w ∈ wordsCut sep cut s) (hc : c ∈ w) :
    c ∈ s ∧ sep c = false := by
  have hclear := forall_mem_wordsCut (p := fun w => ∀ c ∈ w, sep c = false)
    (fun c hc => List.forall_mem_singleton.mpr hc)
    (fun c w hc hw => List.forall_mem_cons.mpr ⟨hc, hw⟩) w hw
  exact ⟨(infix_of_mem_wordsCut hw).subset hc, hclear c hc⟩

lemma ne_nil_of_mem_wordsCut {s w : List Char} (hw : w ∈ wordsCut sep cut s) : w ≠ [] :=
  forall_mem_wordsCut (p := (· ≠ [])) (fun _ _ => List.cons_ne_nil _ _)
    (fun _ _ _ _ => List.cons_ne_nil _ _) w hw

/-- A character before another one of the same word. -/
lemma wordsCut_cons_cons {a b : Char} (ha : sep a = false) (hb : sep b = false)
    (hcut : cut a b = false) {r w : List Char} {ws : List (List Char)}
    (hr : wordsCut sep cut (b :: r) = w :: ws) :
    wordsCut sep cut (a :: b :: r) = (a :: w) :: ws := by
  rw [wordsCut.eq_def]
  dsimp only
  rw [hr, ha]
  simp only [hb, hcut, Bool.or_false, Bool.false_eq_true, if_false]

lemma wordsCut_singleton {a : Char} (ha : sep a = false) : wordsCut sep cut [a] = [[a]] := by
  rw [wordsCut.eq_def]
  dsimp only
  rw [ha]
  rfl

/-- The last character of a word. -/
lemma wordsCut_cons_sep {a u : Char} (ha : sep a = false) (hu : sep u = true) (r : List Char) :
    wordsCut sep cut (a :: u :: r) = [a] :: wordsCut sep cut r := by
  have hskip := @wordsCut_sep sep cut u hu r
  rw [wordsCut.eq_def]
  dsimp only
  rw [hskip, ha]
  cases wordsCut sep cut r with
  | nil => rfl
  | cons v vs => simp only [hu, Bool.true_or, Bool.false_eq_true, if_false, if_true]

/-- The last character of a word before a place to cut. -/
lemma wordsCut_cons_cut {a b : Char} (ha : sep a = false) (hb : sep b = false)
    (hcut : cut a b = true) (r : List Char) :
    wordsCut sep cut (a :: b :: r) = [a] :: wordsCut sep cut (b :: r) := by
  rw [wordsCut.eq_def]
  simp only [ha, Bool.false_eq_true, if_false]
  split <;> simp_all

/-- A separator leaves the words on both sides of it as they are. -/
lemma wordsCut_append_sep {u : Char} (hu : sep u = true) (s t : List Char) :
    wordsCut sep cut (s ++ u :: t) = wordsCut sep cut s ++ wordsCut sep cut t := by
  induction s with
  | nil => exact wordsCut_sep hu t
  | cons a s ih =>
    rw [List.cons_append]
    by_cases ha : sep a = true
    · rw [wordsCut_sep ha, wordsCut_sep ha, ih]
    · rw [Bool.not_eq_true] at ha
      cases s with
      | nil => rw [List.nil_append, wordsCut_cons_sep ha hu, wordsCut_singleton ha, List.singleton_append]
      | cons b s =>
        rw [List.cons_append] at ih ⊢
        by_cases hb : sep b = true
        · rw [wordsCut_sep hb, wordsCut_sep hb] at ih
          rw [wordsCut_cons_sep ha hb, wordsCut_cons_sep ha hb, ih, List.cons_append]
        · rw [Bool.not_eq_true] at hb
          by_cases hcut : cut a b = true
          · rw [wordsCut_cons_cut ha hb hcut, wordsCut_cons_cut ha hb hcut, ih, List.cons_append]
          · rw [Bool.not_eq_true] at hcut
            obtain ⟨w, ws, hw⟩ : ∃ w ws, wordsCut sep cut (b :: s) = w :: ws := by
              obtain h | ⟨_, _, _, _, -, -, -, h⟩ := @wordsCut_cons sep cut b hb s <;>
                exact ⟨_, _, h⟩
            rw [hw, List.cons_append] at ih
            rw [wordsCut_cons_cons ha hb hcut hw, wordsCut_cons_cons ha hb hcut ih, List.cons_append]

/-- A text that no separator and no place to cut divides. -/
structure Undivided (sep : Char → Bool) (cut : Char → Char → Bool) (w : List Char) : Prop where
  nonempty : w ≠ []
  clear : ∀ c ∈ w, sep c = false
  uncut : ∀ a b, [a, b] <:+: w → cut a b = false

namespace Undivided

variable {a b : Char} {w : List Char}

lemma of_clear (hne : w ≠ []) (hw : ∀ c ∈ w, sep c = false) : Undivided sep (fun _ _ => false) w :=
  ⟨hne, hw, fun _ _ _ => rfl⟩

lemma tail (h : Undivided sep cut (a :: b :: w)) : Undivided sep cut (b :: w) where
  nonempty := List.cons_ne_nil _ _
  clear c hc := h.clear c (List.mem_cons_of_mem a hc)
  uncut c d hcd := h.uncut c d (hcd.trans (List.suffix_cons a _).isInfix)

lemma wordsCut_eq (hw : Undivided sep cut w) : wordsCut sep cut w = [w] := by
  induction w with
  | nil => exact absurd rfl hw.nonempty
  | cons a w ih =>
    have ha := hw.clear a List.mem_cons_self
    cases w with
    | nil => exact wordsCut_singleton ha
    | cons b w =>
      have hcut := hw.uncut a b (List.prefix_append [a, b] w).isInfix
      exact wordsCut_cons_cons ha (hw.tail.clear b List.mem_cons_self) hcut (ih hw.tail)

/-- A word ends where a separator stands. -/
lemma wordsCut_append_cons (hw : Undivided sep cut w) {u : Char} (hu : sep u = true) (r : List Char) :
    wordsCut sep cut (w ++ u :: r) = w :: wordsCut sep cut r := by
  rw [wordsCut_append_sep hu, hw.wordsCut_eq, List.singleton_append]

end Undivided

/-- Words that are joined by a separator are the words of the whole. -/
lemma wordsCut_joinWith {u : Char} (hu : sep u = true) {ws : List (List Char)}
    (hws : ∀ w ∈ ws, Undivided sep cut w) : wordsCut sep cut (joinWith [u] ws) = ws := by
  induction ws with
  | nil => rfl
  | cons w ws ih =>
    rw [List.forall_mem_cons] at hws
    cases ws with
    | nil => exact hws.1.wordsCut_eq
    | cons v vs =>
      rw [joinWith, List.append_assoc, List.singleton_append, hws.1.wordsCut_append_cons hu,
        ih hws.2]
      exact List.cons_ne_nil v vs

lemma mem_of_getLast?_joinWith {s : List Char} {ws : List (List Char)} (hws : ∀ w ∈ ws, w ≠ [])
    {c : Char} (hc : (joinWith s ws).getLast? = some c) : ∃ w ∈ ws, c ∈ w := by
  induction ws with
  | nil => cases hc
  | cons w ws ih =>
    rw [List.forall_mem_cons] at hws
    cases ws with
    | nil => exact ⟨w, List.mem_cons_self, List.mem_of_getLast? hc⟩
    | cons v vs =>
      have hne : joinWith s (v :: vs) ≠ [] := by
        have hv := hws.2 v List.mem_cons_self
        cases vs with
        | nil => exact hv
        | cons x xs => simp [joinWith, hv]
      have hlast : (joinWith s (v :: vs)).getLast?.isSome = true :=
        List.getLast?_isSome.mpr hne
      rw [joinWith, List.getLast?_append, Option.or_of_isSome hlast] at hc
      · obtain ⟨x, hx, hcx⟩ := ih hws.2 hc
        exact ⟨x, List.mem_cons_of_mem w hx, hcx⟩
      · exact List.cons_ne_nil v vs

end Text

namespace Naming

open Text

lemma isIdentifierChar_iff {c : Char} : isIdentifierChar c = true ↔
    48 ≤ c.toNat ∧ c.toNat ≤ 57 ∨ 65 ≤ c.toNat ∧ c.toNat ≤ 90 ∨ 97 ≤ c.toNat ∧ c.toNat ≤ 122 ∨
      c = '_' := by
  rw [isIdentifierChar, Bool.or_eq_true, isAlphanum_iff, beq_iff_eq]
  constructor
  · rintro ((h | h | h) | h)
    · exact .inl h
    · exact .inr (.inl h)
    · exact .inr (.inr (.inl h))
    · exact .inr (.inr (.inr h))
  · rintro (h | h | h | h)
    · exact .inl (.inl h)
    · exact .inl (.inr (.inl h))
    · exact .inl (.inr (.inr h))
    · exact .inr h

lemma toNat_lt_of_isIdentifierChar {c : Char} (h : isIdentifierChar c = true) :
    48 ≤ c.toNat ∧ c.toNat ≤ 122 := by
  rcases isIdentifierChar_iff.mp h with h | h | h | rfl
  · omega
  · omega
  · omega
  · decide

lemma isWord_of_isIdentifierChar {c : Char} (h : isIdentifierChar c = true) : isWord c = true := by
  have hc := toNat_lt_of_isIdentifierChar h
  rw [isWord, if_pos (by omega)]
  exact h

lemma isBlank_of_isIdentifierChar {c : Char} (h : isIdentifierChar c = true) :
    isBlank c = false := by
  have hc := toNat_lt_of_isIdentifierChar h
  simp only [isBlank, Bool.or_eq_false_iff, Bool.and_eq_false_iff, decide_eq_false_iff_not,
    beq_eq_false_iff_ne]
  omega

lemma isIdentifierChar_sanitize {s : List Char} {c : Char} (h : c ∈ sanitize s) :
    isIdentifierChar c = true := by
  have hjoin : ∀ {d}, d ∈ joinWith ['_'] (wordsBy (fun c => !c.isAlphanum) s) →
      isIdentifierChar d = true := by
    intro d hd
    rw [isIdentifierChar, Bool.or_eq_true, beq_iff_eq]
    obtain hd | ⟨w, hw, hd⟩ := mem_joinWith hd
    · exact .inr (List.mem_singleton.mp hd)
    · have hsep := (mem_wordsCut hw hd).2
      rw [Bool.not_eq_false'] at hsep
      exact .inl hsep
  rw [sanitize] at h
  split at h
  · have hall : ∀ d ∈ unnamed, isIdentifierChar d = true := List.all_eq_true.mp (by decide)
    exact hall c h
  · next a r hr =>
    split at h
    · rcases List.mem_cons.mp h with rfl | h
      · rfl
      · exact hjoin (hr ▸ h)
    · exact hjoin (hr ▸ h)

lemma sanitize_ne_nil (s : List Char) : sanitize s ≠ [] := by
  rw [sanitize]
  split
  · decide
  · split <;> exact List.cons_ne_nil _ _

lemma isIdentifierChar_escapeKeyword {s : List Char} (hs : ∀ c ∈ s, isIdentifierChar c = true)
    {c : Char} (h : c ∈ escapeKeyword s) : isIdentifierChar c = true := by
  rw [escapeKeyword] at h
  split at h
  · rcases List.mem_append.mp h with h | h
    · exact hs c h
    · rw [List.mem_singleton.mp h]
      rfl
  · exact hs c h

/-- The words of a sanitized name are runs of letters and digits. -/
lemma undivided_alphanum {s w : List Char} (hw : w ∈ wordsBy (fun c => !c.isAlphanum) s) :
    Undivided (fun c => !c.isAlphanum) (fun _ _ => false) w :=
  .of_clear (ne_nil_of_mem_wordsCut hw) fun _ hc => (mem_wordsCut hw hc).2

/-- The runs of letters and digits in a name, which are all that sanitizing leaves of it. -/
def runs (s : List Char) : List (List Char) := wordsBy (fun c => !c.isAlphanum) s

lemma sanitize_of_runs_nil {s : List Char} (h : runs s = []) : sanitize s = unnamed := by
  rw [runs] at h
  rw [sanitize, h]
  rfl

lemma sanitize_congr {s t : List Char} (h : runs s = runs t) : sanitize s = sanitize t := by
  rw [runs, runs] at h
  rw [sanitize, sanitize, h]

lemma runs_sanitize {s : List Char} (h : runs s ≠ []) : runs (sanitize s) = runs s := by
  have hjoin : runs (joinWith ['_'] (runs s)) = runs s :=
    wordsCut_joinWith rfl fun _ hw => undivided_alphanum hw
  rw [sanitize]
  split
  · next hnil =>
    change joinWith ['_'] (runs s) = [] at hnil
    rw [hnil] at hjoin
    exact absurd hjoin.symm h
  · next c r hr =>
    change joinWith ['_'] (runs s) = c :: r at hr
    rw [hr] at hjoin
    split
    · exact (@wordsCut_sep (fun c => !c.isAlphanum) (fun _ _ => false) '_' rfl (c :: r)).trans hjoin
    · exact hjoin

lemma sanitize_sanitize (s : List Char) : sanitize (sanitize s) = sanitize s := by
  by_cases h : runs s = []
  · rw [sanitize_of_runs_nil h]
    decide
  · exact sanitize_congr (runs_sanitize h)

lemma getLast?_sanitize (s : List Char) : (sanitize s).getLast? ≠ some '_' := by
  intro hlast
  rw [sanitize] at hlast
  split at hlast
  · revert hlast
    decide
  · next c r hr =>
    have hjoin : (c :: r).getLast? = some '_' := by
      split at hlast
      · rwa [List.getLast?_cons_cons] at hlast
      · exact hlast
    rw [← hr] at hjoin
    obtain ⟨w, hw, hmem⟩ :=
      mem_of_getLast?_joinWith (fun w hw => (undivided_alphanum hw).nonempty) hjoin
    exact absurd ((undivided_alphanum hw).clear '_' hmem) (by decide)

/-- Escaping keeps sanitized names apart, since none of them ends in an underscore. -/
lemma escapeKeyword_sanitize_inj {s t : List Char}
    (h : escapeKeyword (sanitize s) = escapeKeyword (sanitize t)) : sanitize s = sanitize t := by
  have hlast : ∀ u v : List Char, sanitize u ≠ sanitize v ++ ['_'] := fun u v huv =>
    getLast?_sanitize u (by rw [huv, List.getLast?_concat])
  rw [escapeKeyword, escapeKeyword] at h
  split at h
  · split at h
    · exact List.append_cancel_right h
    · exact absurd h.symm (hlast t s)
  · split at h
    · exact absurd h (hlast s t)
    · exact h

lemma isIdentifierChar_toLower {c : Char} (h : isIdentifierChar c = true) :
    isIdentifierChar c.toLower = true := by
  delta Char.toLower
  split
  · next hc =>
    have hlow : 65 ≤ c.val.toNat := UInt32.le_iff_toNat_le.mp hc.1
    have hhigh : c.val.toNat ≤ 90 := UInt32.le_iff_toNat_le.mp hc.2
    have hadd : (c.val + ('a'.val - 'A'.val)).toNat = c.val.toNat + 32 := by
      rw [UInt32.toNat_add, show ('a'.val - 'A'.val).toNat = 32 from rfl]
      omega
    refine isIdentifierChar_iff.mpr (.inr (.inr (.inl ?_)))
    rw [Char.toNat, hadd]
    omega
  · exact h

lemma isIdentifierChar_lowerAfter {s : List Char} (hs : ∀ c ∈ s, isIdentifierChar c = true)
    {cased : Bool} {c : Char} (h : c ∈ lowerAfter cased s) : isIdentifierChar c = true := by
  induction s generalizing cased with
  | nil => cases h
  | cons a r ih =>
    have ha := hs a List.mem_cons_self
    have hlt := toNat_lt_of_isIdentifierChar ha
    have hne : a ≠ 'Σ' := by
      rintro rfl
      revert hlt
      decide
    rw [lowerAfter, if_neg hne, lowerLetter, if_pos (by omega), List.mem_append] at h
    rcases h with h | h
    · rw [List.mem_singleton.mp h]
      exact isIdentifierChar_toLower ha
    · exact ih (fun d hd => hs d (List.mem_cons_of_mem a hd)) h

lemma isIdentifierChar_snake {s : List Char} {c : Char} (h : c ∈ snake s) :
    isIdentifierChar c = true := by
  obtain h | ⟨w, hw, hc⟩ := mem_joinWith h
  · rw [List.mem_singleton.mp h]
    rfl
  · obtain ⟨v, hv, rfl⟩ := List.mem_map.mp hw
    refine isIdentifierChar_lowerAfter (fun d hd => ?_) hc
    exact isIdentifierChar_sanitize (mem_wordsCut hv hd).1

end Naming

namespace Name

lemma sanitize_sanitize (s : String) : sanitize (sanitize s) = sanitize s := by
  rw [sanitize, ofChars, ofChars, String.toList_ofList, Naming.sanitize_sanitize]

lemma escapeKeyword_sanitize_inj {s t : String}
    (h : escapeKeyword (sanitize s) = escapeKeyword (sanitize t)) : sanitize s = sanitize t := by
  have hchars := congrArg String.toList h
  simp only [escapeKeyword, sanitize, ofChars, String.toList_ofList] at hchars
  rw [sanitize, ofChars, ofChars, Naming.escapeKeyword_sanitize_inj hchars]

end Name

end SceneBindings
