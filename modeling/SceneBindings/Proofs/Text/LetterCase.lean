import Mathlib.Tactic.Lemma
import SceneBindings.Text.Blank
import SceneBindings.Text.Case
import SceneBindings.Text.Digit

/-!
What the small and the large form of a letter can be. The tables of letters are compared with the
sets of their images, which shows that forms are their own forms, and that no letter has a blank, a
digit, a bracket, a slash or an underscore for its form.
-/

namespace SceneBindings.Text

/-! ### Runs of letters -/

/-- The code points that the letters of a run are moved to. -/
def CaseRun.image (r : CaseRun) : CaseRun :=
  ⟨(r.first + r.shift).toNat, (r.last + r.shift).toNat, r.step, 0⟩

/-- The images are characters other than the first one. -/
def CaseRun.lands (r : CaseRun) : Bool :=
  r.image.first != 0 && (r.image.last.blt 0xd800 ||
    (Nat.ble 0xe000 r.image.first && r.image.last.blt 0x110000))

def between (lo hi : Nat) : CaseRun := ⟨lo, hi, 1, 0⟩

/-- The union of sets of numbers, each given by the bits of a number. -/
def unionBits {α : Type} (f : α → Nat) (as : List α) : Nat := as.foldr (fun a m => f a ||| m) 0

/-- The code points of runs. As bits of a number the sets of whole tables are compared at once. -/
def codeBits : List CaseRun → Nat :=
  unionBits fun r =>
    unionBits (1 <<< ·) (List.range' r.first ((r.last - r.first) / r.step + 1) r.step)

variable {r : CaseRun} {runs others : List CaseRun} {c d : Char} {n m : Nat}

lemma CaseRun.contains_iff :
    r.contains n = true ↔ r.first ≤ n ∧ n ≤ r.last ∧ (n - r.first) % r.step = 0 := by
  simp only [CaseRun.contains, Bool.and_eq_true, decide_eq_true_eq, beq_iff_eq, and_assoc]

lemma contains_between {lo hi : Nat} : (between lo hi).contains n = true ↔ lo ≤ n ∧ n ≤ hi := by
  rw [CaseRun.contains_iff]
  simp only [between, Nat.mod_one, and_true]

lemma testBit_unionBits {α : Type} {f : α → Nat} {as : List α} {a : α} (ha : a ∈ as)
    (h : (f a).testBit n = true) : (unionBits f as).testBit n = true := by
  induction as with
  | nil => cases ha
  | cons b as ih =>
    rw [unionBits, List.foldr_cons, Nat.testBit_or, Bool.or_eq_true]
    rcases List.mem_cons.mp ha with rfl | ha
    · exact .inl h
    · exact .inr (ih ha)

lemma testBit_codeBits (hr : r ∈ runs) (hn : r.contains n = true) :
    (codeBits runs).testBit n = true := by
  obtain ⟨hfirst, hlast, hstep⟩ := CaseRun.contains_iff.mp hn
  have hdvd : n = r.first + r.step * ((n - r.first) / r.step) := by
    have hdiv := Nat.div_add_mod (n - r.first) r.step
    omega
  refine testBit_unionBits hr (testBit_unionBits (a := n) (List.mem_range'.mpr ⟨_, ?_, hdvd⟩) ?_)
  · exact Nat.lt_succ_of_le (Nat.div_le_div_right (Nat.sub_le_sub_right hlast _))
  · rw [Nat.one_shiftLeft]
    exact Nat.testBit_two_pow_self

lemma not_contains_of_testBit (h : (codeBits runs).testBit n = false) (hr : r ∈ runs) :
    r.contains n = false :=
  eq_false_of_ne_true fun hn => ne_true_of_eq_false h (testBit_codeBits hr hn)

lemma CaseRun.contains_image (hlands : r.lands = true) (hn : r.contains n = true)
    (hm : (m : Int) = n + r.shift) : r.image.contains m = true := by
  rw [CaseRun.contains_iff] at hn ⊢
  simp only [CaseRun.lands, CaseRun.image, Bool.and_eq_true, bne_iff_ne] at hlands ⊢
  refine ⟨by omega, by omega, ?_⟩
  rw [show m - (r.first + r.shift).toNat = n - r.first by omega]
  exact hn.2.2

/-- A letter is left alone, or moved by a run that holds it. -/
lemma shiftCase_cases (hlands : runs.all CaseRun.lands = true) (c : Char) :
    shiftCase runs c = c ∨
      ∃ r ∈ runs, r.contains c.toNat = true ∧ ((shiftCase runs c).toNat : Int) = c.toNat + r.shift ∧
        0 < (shiftCase runs c).toNat := by
  rw [shiftCase]
  split
  · next r hr =>
    have hmem := List.mem_of_find?_eq_some hr
    have hin := List.find?_some hr
    have hland := List.all_eq_true.mp hlands r hmem
    refine .inr ⟨r, hmem, hin, ?_⟩
    rw [CaseRun.contains_iff] at hin
    simp only [CaseRun.lands, CaseRun.image, Bool.and_eq_true, Bool.or_eq_true, Nat.blt_eq,
      Nat.ble_eq, bne_iff_ne] at hland
    have hvalid : (c.toNat + r.shift).toNat.isValidChar := by
      rw [Nat.isValidChar]
      omega
    have hnat : (Char.ofNat (c.toNat + r.shift).toNat).toNat = (c.toNat + r.shift).toNat := by
      rw [Char.ofNat, dif_pos hvalid]
      rfl
    rw [hnat]
    omega
  · exact .inl rfl

/-- No letter is moved into a run of the second table. -/
abbrev KeepsOff (runs others : List CaseRun) : Prop :=
  codeBits (runs.map CaseRun.image) &&& codeBits others = 0

lemma shiftCase_outside (hlands : runs.all CaseRun.lands = true) (hoff : KeepsOff runs others)
    (c : Char) :
    shiftCase runs c = c ∨ (codeBits others).testBit (shiftCase runs c).toNat = false := by
  rcases shiftCase_cases hlands c with heq | ⟨r, hr, hin, hshift, -⟩
  · exact .inl heq
  · have himage := testBit_codeBits (List.mem_map_of_mem hr)
      (CaseRun.contains_image (List.all_eq_true.mp hlands r hr) hin hshift)
    have hboth := congrArg (Nat.testBit · (shiftCase runs c).toNat) hoff
    simp only [Nat.testBit_and, himage, Nat.zero_testBit, Bool.true_and] at hboth
    exact .inr hboth

lemma shiftCase_eq_self (h : ∀ r ∈ runs, r.contains c.toNat = false) : shiftCase runs c = c := by
  have hnone : runs.find? (·.contains c.toNat) = none :=
    List.find?_eq_none.mpr fun r hr => ne_true_of_eq_false (h r hr)
  rw [shiftCase, hnone]

lemma lands_lowerRuns : lowerRuns.all CaseRun.lands = true := by decide +kernel

lemma lands_upperRuns : upperRuns.all CaseRun.lands = true := by decide +kernel

/-- What holds of the code points below 128 holds of the ASCII characters. -/
lemma ascii_of_forall {p : Char → Prop} (h : ∀ n < 128, p (Char.ofNat n)) (hc : c.toNat < 128) :
    p c := by
  have hof := h c.toNat hc
  rwa [Char.ofNat_toNat] at hof

/-! ### Characters without case -/

/-- Blanks, digits, round brackets, the slash and the underscore. -/
def caselessRuns : List CaseRun :=
  [between 0x9 0xd, between 0x1c 0x20, between 0x28 0x29, between 0x2f 0x39, between 0x5f 0x5f,
    between 0x85 0x85, between 0xa0 0xa0, between 0x1680 0x1680, between 0x2000 0x200a,
    between 0x2028 0x2029, between 0x202f 0x202f, between 0x205f 0x205f, between 0x3000 0x3000] ++
  zeros.map fun z => between z (z + 9)

def isCaseless (c : Char) : Bool := (codeBits caselessRuns).testBit c.toNat

lemma isCaseless_of_mem {lo hi : Nat} (h : between lo hi ∈ caselessRuns) (hlo : lo ≤ c.toNat)
    (hhi : c.toNat ≤ hi) : isCaseless c = true :=
  testBit_codeBits h (contains_between.mpr ⟨hlo, hhi⟩)

lemma isCaseless_of_isBlank (h : isBlank c = true) : isCaseless c = true := by
  simp only [isBlank, Bool.or_eq_true, Bool.and_eq_true, decide_eq_true_eq, beq_iff_eq] at h
  have hmem : ∀ r ∈ caselessRuns.take 13, r.contains c.toNat = true → isCaseless c = true :=
    fun r hr hin => testBit_codeBits (List.mem_of_mem_take hr) hin
  simp only [caselessRuns, List.cons_append, List.take_succ_cons, List.forall_mem_cons,
    contains_between] at hmem
  obtain ⟨h9, h1c, -, -, -, h85, ha0, h1680, h2000, h2028, h202f, h205f, h3000, -⟩ := hmem
  rcases h with (((((((((h | h) | h) | h) | h) | h) | h) | h) | h) | h) | h
  · exact h9 h
  · exact h1c h
  · exact h85 (by omega)
  · exact ha0 (by omega)
  · exact h1680 (by omega)
  · exact h2000 h
  · exact h2028 (by omega)
  · exact h2028 (by omega)
  · exact h202f (by omega)
  · exact h205f (by omega)
  · exact h3000 (by omega)

lemma isCaseless_of_isDigit (h : isDigit c = true) : isCaseless c = true := by
  rw [isDigit, digitValue?] at h
  split at h
  · next hlow =>
    have hall : ∀ n < 128, (Char.ofNat n).isDigit = true → isCaseless (Char.ofNat n) = true := by
      decide +kernel
    split at h
    · next hdigit =>
      exact ascii_of_forall (p := fun c => c.isDigit = true → isCaseless c = true) hall hlow hdigit
    · cases h
  · rw [Option.isSome_map] at h
    obtain ⟨z, hz, hin⟩ := List.find?_isSome.mp h
    simp only [Bool.and_eq_true, decide_eq_true_eq] at hin
    exact isCaseless_of_mem
      (List.mem_append_right _ (List.mem_map.mpr ⟨z, hz, rfl⟩)) hin.1 (by omega)

/-- The image of a letter is no character without case. -/
lemma eq_of_isCaseless_shiftCase (hlands : runs.all CaseRun.lands = true)
    (hoff : KeepsOff runs caselessRuns) (h : isCaseless (shiftCase runs c) = true) :
    shiftCase runs c = c :=
  (shiftCase_outside hlands hoff c).resolve_right (ne_false_of_eq_true h)

/-! ### Small forms -/

lemma lowerLetter_ascii (h : c.toNat < 128) : lowerLetter c = [c.toLower] := if_pos h

/-- Beyond ASCII the dotted `I` has a small form of two letters, any other letter one of its own. -/
lemma lowerLetter_cases (hc : 128 ≤ c.toNat) (h : d ∈ lowerLetter c) :
    d = 'i' ∨ d = '\u0307' ∨ d = shiftCase lowerRuns c ∧ lowerLetter c = [d] := by
  rw [lowerLetter, if_neg (Nat.not_lt.mpr hc)] at h ⊢
  split at h
  · rw [List.mem_cons, List.mem_singleton] at h
    exact h.imp_right .inl
  · next hcode =>
    rw [if_neg hcode, ← List.mem_singleton.mp h]
    exact .inr (.inr ⟨rfl, rfl⟩)

lemma lowerLetter_ne_nil (c : Char) : lowerLetter c ≠ [] := by
  rw [lowerLetter]
  split
  · exact List.cons_ne_nil _ _
  · split <;> exact List.cons_ne_nil _ _

/-- A character without case is the small form of itself alone. -/
lemma eq_of_mem_lowerLetter (h : d ∈ lowerLetter c) (hd : isCaseless d = true) : d = c := by
  by_cases hc : c.toNat < 128
  · have hall : ∀ n < 128, isCaseless (Char.ofNat n).toLower = true →
        (Char.ofNat n).toLower = Char.ofNat n := by decide +kernel
    rw [lowerLetter_ascii hc, List.mem_singleton] at h
    rw [h] at hd ⊢
    exact ascii_of_forall (p := fun c => isCaseless c.toLower = true → c.toLower = c) hall hc hd
  · rcases lowerLetter_cases (Nat.not_lt.mp hc) h with rfl | rfl | ⟨rfl, -⟩
    · exact absurd hd (by decide +kernel)
    · exact absurd hd (by decide +kernel)
    · exact eq_of_isCaseless_shiftCase lands_lowerRuns (by decide +kernel) hd

/-- Of the letters beyond ASCII only the dotted `I` and the Kelvin sign have small forms in it. -/
lemma eq_of_mem_lowerLetter_ascii (h : d ∈ lowerLetter c) (hc : 128 ≤ c.toNat)
    (hd : d.toNat < 128) : d = 'i' ∨ d = 'k' := by
  rcases lowerLetter_cases hc h with rfl | rfl | ⟨h, -⟩
  · exact .inl rfl
  · exact absurd hd (by decide)
  · have hascii : KeepsOff lowerRuns [between 1 106, between 108 127] := by decide +kernel
    rcases shiftCase_outside lands_lowerRuns hascii c with heq | hout
    · rw [h, heq] at hd
      exact absurd hc (Nat.not_le.mpr hd)
    · have hbelow := not_contains_of_testBit hout List.mem_cons_self
      have habove := not_contains_of_testBit hout (List.mem_cons_of_mem _ List.mem_cons_self)
      rw [← h, ← Bool.not_eq_true, contains_between] at hbelow habove
      have hpos : 0 < d.toNat := by
        rcases shiftCase_cases lands_lowerRuns c with heq | ⟨_, _, _, _, hpos⟩
        · rw [h, heq]
          omega
        · exact h ▸ hpos
      exact .inr (Char.toNat_inj.mp (by change d.toNat = 107; omega))

lemma isUpper_of_mem_lowerLetter (h : d ∈ lowerLetter c) : d.isUpper = false := by
  have hall : ∀ n < 128, (Char.ofNat n).toLower.isUpper = false := by decide +kernel
  by_cases hc : c.toNat < 128
  · rw [lowerLetter_ascii hc, List.mem_singleton] at h
    rw [h]
    exact ascii_of_forall (p := fun c => c.toLower.isUpper = false) hall hc
  · by_cases hd : d.toNat < 128
    · rcases eq_of_mem_lowerLetter_ascii h (Nat.not_lt.mp hc) hd with rfl | rfl <;> rfl
    · have hhigh : ¬ d.val ≤ 'Z'.val := by
        rw [UInt32.le_iff_toNat_le]
        exact fun hle => hd (Nat.lt_of_le_of_lt hle (by decide))
      exact decide_eq_false fun h => hhigh h.2

/-- The letters with a small form of their own, among them the sigma, whose form depends on its
place. -/
def largeRuns : List CaseRun :=
  between 65 90 :: between 0x3a3 0x3a3 :: between 0x130 0x130 :: lowerRuns

/-- A character that is its own small form, wherever it stands. -/
def IsSmall (c : Char) : Prop := c ≠ 'Σ' ∧ lowerLetter c = [c]

instance : DecidablePred IsSmall := fun _ => inferInstanceAs (Decidable (_ ∧ _))

lemma isSmall_of_testBit (h : (codeBits largeRuns).testBit c.toNat = false) : IsSmall c := by
  have hmem : ∀ r ∈ largeRuns, r.contains c.toNat = false := fun r => not_contains_of_testBit h
  rw [largeRuns, List.forall_mem_cons, List.forall_mem_cons, List.forall_mem_cons] at hmem
  obtain ⟨hascii, hsigma, hdotted, hruns⟩ := hmem
  rw [← Bool.not_eq_true, contains_between] at hsigma hdotted
  refine ⟨fun hc => hsigma (by rw [hc]; decide), ?_⟩
  by_cases hc : c.toNat < 128
  · have hall : ∀ n < 128, (between 65 90).contains (Char.ofNat n).toNat = false →
        (Char.ofNat n).toLower = Char.ofNat n := by decide +kernel
    rw [lowerLetter_ascii hc]
    exact congrArg (fun d => [d]) (ascii_of_forall
      (p := fun c => (between 65 90).contains c.toNat = false → c.toLower = c) hall hc hascii)
  · rw [lowerLetter, if_neg hc, if_neg fun hcode => hdotted (by omega), shiftCase_eq_self hruns]

lemma isSmall_of_mem_lowerLetter (hc : c ≠ 'Σ') (h : d ∈ lowerLetter c) : IsSmall d := by
  by_cases hlow : c.toNat < 128
  · have hascii : ∀ n < 128, IsSmall (Char.ofNat n).toLower := by decide +kernel
    rw [lowerLetter_ascii hlow, List.mem_singleton] at h
    rw [h]
    exact ascii_of_forall (p := fun c => IsSmall c.toLower) hascii hlow
  · rcases lowerLetter_cases (Nat.not_lt.mp hlow) h with rfl | rfl | ⟨hd, hform⟩
    · decide +kernel
    · decide +kernel
    · have hoff : KeepsOff lowerRuns largeRuns := by decide +kernel
      rcases shiftCase_outside lands_lowerRuns hoff c with heq | hout
      · rw [hd.trans heq] at hform ⊢
        exact ⟨hc, hform⟩
      · rw [hd]
        exact isSmall_of_testBit hout

/-! ### Small texts -/

variable {s t : List Char} {cased : Bool}

lemma mem_lowerAfter (h : d ∈ lowerAfter cased s) :
    ∃ c ∈ s, (c = 'Σ' ∧ (d = 'ς' ∨ d = 'σ')) ∨ (c ≠ 'Σ' ∧ d ∈ lowerLetter c) := by
  induction s generalizing cased with
  | nil => cases h
  | cons c r ih =>
    rw [lowerAfter, List.mem_append] at h
    rcases h with h | h
    · refine ⟨c, List.mem_cons_self, ?_⟩
      split at h
      · next hc =>
        rw [List.mem_singleton] at h
        refine .inl ⟨hc, ?_⟩
        rw [h]
        split
        · exact .inl rfl
        · exact .inr rfl
      · next hc => exact .inr ⟨hc, h⟩
    · obtain ⟨c, hc, hform⟩ := ih h
      exact ⟨c, List.mem_cons_of_mem _ hc, hform⟩

lemma mem_of_mem_lowerAfter (h : d ∈ lowerAfter cased s) (hd : isCaseless d = true) : d ∈ s := by
  obtain ⟨c, hc, ⟨-, rfl | rfl⟩ | ⟨-, hform⟩⟩ := mem_lowerAfter h
  · exact absurd hd (by decide +kernel)
  · exact absurd hd (by decide +kernel)
  · rw [eq_of_mem_lowerLetter hform hd]
    exact hc

lemma isUpper_of_mem_lowerAfter (h : d ∈ lowerAfter cased s) : d.isUpper = false := by
  obtain ⟨c, -, ⟨-, rfl | rfl⟩ | ⟨-, hform⟩⟩ := mem_lowerAfter h
  · decide
  · decide
  · exact isUpper_of_mem_lowerLetter hform

lemma isSmall_of_mem_lowerAfter (h : d ∈ lowerAfter cased s) : IsSmall d := by
  obtain ⟨c, -, ⟨-, rfl | rfl⟩ | ⟨hc, hform⟩⟩ := mem_lowerAfter h
  · decide +kernel
  · decide +kernel
  · exact isSmall_of_mem_lowerLetter hc hform

/-- Away from the sigma the small form of a letter does not depend on its place. -/
lemma lowerAfter_eq_flatMap (hs : 'Σ' ∉ s) : lowerAfter cased s = s.flatMap lowerLetter := by
  induction s generalizing cased with
  | nil => rfl
  | cons c r ih =>
    rw [List.mem_cons, not_or] at hs
    rw [lowerAfter, if_neg (Ne.symm hs.1), ih hs.2, List.flatMap_cons]

lemma flatMap_lowerLetter_of_isSmall (hs : ∀ c ∈ s, IsSmall c) : s.flatMap lowerLetter = s := by
  induction s with
  | nil => rfl
  | cons c r ih =>
    rw [List.forall_mem_cons] at hs
    rw [List.flatMap_cons, hs.1.2, ih hs.2, List.singleton_append]

/-- A small text that follows a text without a sigma is left alone. -/
lemma lower_append_lowerAfter (ht : 'Σ' ∉ t) :
    lower (t ++ lowerAfter cased s) = lower t ++ lowerAfter cased s := by
  have hsmall : ∀ d ∈ lowerAfter cased s, IsSmall d := fun _ => isSmall_of_mem_lowerAfter
  have hfree : 'Σ' ∉ lowerAfter cased s := fun h => (hsmall _ h).1 rfl
  rw [lower, lowerAfter_eq_flatMap, List.flatMap_append, flatMap_lowerLetter_of_isSmall hsmall,
    lower, lowerAfter_eq_flatMap ht]
  rw [List.mem_append, not_or]
  exact ⟨ht, hfree⟩

/-- The small form of a text ends with small forms of its last characters. -/
lemma exists_lowerAfter_append (cased : Bool) (s t : List Char) :
    ∃ u cased', lowerAfter cased (s ++ t) = u ++ lowerAfter cased' t := by
  induction s generalizing cased with
  | nil => exact ⟨[], cased, rfl⟩
  | cons c r ih =>
    obtain ⟨u, cased', h⟩ := ih (if isCaseIgnorable c then cased else isCased c)
    rw [List.cons_append, lowerAfter, h, ← List.append_assoc]
    exact ⟨_, cased', rfl⟩

lemma length_le_lowerAfter (cased : Bool) (s : List Char) :
    s.length ≤ (lowerAfter cased s).length := by
  induction s generalizing cased with
  | nil => exact Nat.zero_le _
  | cons c r ih =>
    have hrest := ih (if isCaseIgnorable c then cased else isCased c)
    have hletter : 0 < (lowerLetter c).length := List.length_pos_iff.mpr (lowerLetter_ne_nil c)
    rw [lowerAfter, List.length_append, List.length_cons]
    split
    · rw [List.length_singleton]
      omega
    · omega

/-! ### Large forms -/

lemma upperLetter_ascii (h : c.toNat < 128) : upperLetter c = [c.toUpper] := if_pos h

lemma upperLetter_cases (h : 128 ≤ c.toNat) :
    (∃ e ∈ upperExpansions, upperLetter c = e.2.map Char.ofNat) ∨
      upperLetter c = [shiftCase upperRuns c] := by
  rw [upperLetter, if_neg (Nat.not_lt.mpr h)]
  split
  · next e he => exact .inl ⟨e, List.mem_of_find?_eq_some he, rfl⟩
  · exact .inr rfl

/-- The letters with a large form of their own. -/
def smallRuns : List CaseRun :=
  between 97 122 :: upperRuns ++ upperExpansions.map fun e => between e.1 e.1

lemma upperLetter_of_testBit (h : (codeBits smallRuns).testBit c.toNat = false) :
    upperLetter c = [c] := by
  have hmem : ∀ r ∈ smallRuns, r.contains c.toNat = false := fun r => not_contains_of_testBit h
  rw [smallRuns, List.cons_append, List.forall_mem_cons, List.forall_mem_append,
    List.forall_mem_map] at hmem
  obtain ⟨hascii, hruns, hexpansions⟩ := hmem
  by_cases hc : c.toNat < 128
  · have hall : ∀ n < 128, (between 97 122).contains (Char.ofNat n).toNat = false →
        (Char.ofNat n).toUpper = Char.ofNat n := by decide +kernel
    rw [upperLetter_ascii hc]
    exact congrArg (fun d => [d]) (ascii_of_forall
      (p := fun c => (between 97 122).contains c.toNat = false → c.toUpper = c) hall hc hascii)
  · have hnone : upperExpansions.find? (·.1 == c.toNat) = none := by
      refine List.find?_eq_none.mpr fun e he heq => ne_true_of_eq_false (hexpansions e he) ?_
      rw [beq_iff_eq] at heq
      rw [contains_between]
      omega
    rw [upperLetter, if_neg hc, hnone, shiftCase_eq_self hruns]

/-- What the letters of a form of several letters can be. -/
structure IsExpansion (s : List Char) : Prop where
  nonempty : s ≠ []
  cased : ∀ d ∈ s, isCaseless d = false
  large : ∀ d ∈ s, (d.isLower || d.isDigit) = false
  head : ∀ d ∈ s.head?, (codeBits smallRuns).testBit d.toNat = false
  tail : 'Σ' ∉ s.tail

lemma isExpansion_of_mem {e : Nat × List Nat} (he : e ∈ upperExpansions) :
    IsExpansion (e.2.map Char.ofNat) := by
  have hall : ∀ e ∈ upperExpansions, e.2.map Char.ofNat ≠ [] ∧
      (e.2.map Char.ofNat).all (fun d => !isCaseless d) = true ∧
      (e.2.map Char.ofNat).all (fun d => !(d.isLower || d.isDigit)) = true ∧
      (e.2.map Char.ofNat).head?.all (fun d => !(codeBits smallRuns).testBit d.toNat) = true ∧
      'Σ' ∉ (e.2.map Char.ofNat).tail := by decide +kernel
  obtain ⟨hne, hcased, hlarge, hhead, htail⟩ := hall e he
  simp only [List.all_eq_true, Option.all_eq_true, Bool.not_eq_true'] at hcased hlarge hhead
  exact ⟨hne, hcased, hlarge, hhead, htail⟩

lemma isExpansion_or_single (c : Char) :
    IsExpansion (upperLetter c) ∨ ∃ d, upperLetter c = [d] := by
  by_cases hc : c.toNat < 128
  · exact .inr ⟨_, upperLetter_ascii hc⟩
  · rcases upperLetter_cases (Nat.not_lt.mp hc) with ⟨e, he, hform⟩ | hform
    · exact .inl (hform ▸ isExpansion_of_mem he)
    · exact .inr ⟨_, hform⟩

lemma upperLetter_ne_nil (c : Char) : upperLetter c ≠ [] := by
  rcases isExpansion_or_single c with h | ⟨d, h⟩
  · exact h.nonempty
  · rw [h]
    exact List.cons_ne_nil _ _

/-- A character without case is the large form of itself alone. -/
lemma eq_of_mem_upperLetter (h : d ∈ upperLetter c) (hd : isCaseless d = true) : d = c := by
  by_cases hc : c.toNat < 128
  · have hall : ∀ n < 128, isCaseless (Char.ofNat n).toUpper = true →
        (Char.ofNat n).toUpper = Char.ofNat n := by decide +kernel
    rw [upperLetter_ascii hc, List.mem_singleton] at h
    rw [h] at hd ⊢
    exact ascii_of_forall (p := fun c => isCaseless c.toUpper = true → c.toUpper = c) hall hc hd
  · rcases upperLetter_cases (Nat.not_lt.mp hc) with ⟨e, he, hform⟩ | hform
    · rw [(isExpansion_of_mem he).cased d (hform ▸ h)] at hd
      cases hd
    · rw [hform, List.mem_singleton] at h
      rw [h] at hd ⊢
      exact eq_of_isCaseless_shiftCase lands_upperRuns (by decide +kernel) hd

/-- A form of several letters holds no small ASCII letter and no digit. -/
lemma large_of_mem_upperLetter (h : d ∈ upperLetter c) (hlong : (upperLetter c).tail ≠ []) :
    (d.isLower || d.isDigit) = false := by
  rcases isExpansion_or_single c with hform | ⟨e, hform⟩
  · exact hform.large d h
  · rw [hform] at hlong
    exact absurd rfl hlong

lemma sigma_not_mem_tail_upperLetter (c : Char) : 'Σ' ∉ (upperLetter c).tail := by
  rcases isExpansion_or_single c with h | ⟨d, h⟩
  · exact h.tail
  · rw [h]
    exact List.not_mem_nil

/-- The first letter of a large form is its own large form. -/
lemma upperLetter_of_mem_head? (h : d ∈ (upperLetter c).head?) : upperLetter d = [d] := by
  by_cases hc : c.toNat < 128
  · have hascii : ∀ n < 128, upperLetter (Char.ofNat n).toUpper = [(Char.ofNat n).toUpper] := by
      decide +kernel
    rw [upperLetter_ascii hc] at h
    cases h
    exact ascii_of_forall (p := fun c => upperLetter c.toUpper = [c.toUpper]) hascii hc
  · rcases upperLetter_cases (Nat.not_lt.mp hc) with ⟨e, he, hform⟩ | hform
    · exact upperLetter_of_testBit ((isExpansion_of_mem he).head d (hform ▸ h))
    · have hoff : KeepsOff upperRuns smallRuns := by decide +kernel
      have hmem := hform ▸ h
      rw [List.head?_cons, Option.mem_some_iff] at hmem
      rcases shiftCase_outside lands_upperRuns hoff c with heq | hout
      · rw [← hmem, heq]
        exact hform.trans (congrArg (fun d => [d]) heq)
      · rw [← hmem]
        exact upperLetter_of_testBit hout

end SceneBindings.Text
