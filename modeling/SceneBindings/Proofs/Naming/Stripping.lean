import Mathlib.Data.List.Infix
import SceneBindings.Proofs.Naming.Canonical

/-!
# Stripping: which rule takes the mark off a name

A name shows its widget type by the type word or by the abbreviation, before or after its other
words, and the rules that take this mark off are tried in one fixed order. The first rule that fires
has to be the one meant for the spelling at hand. It is, provided that

> the other words, written side by side in small letters, neither begin nor end with the type word or
> with the abbreviation.

A rule compares small forms, so that everything here is about prefixes and suffixes of small forms. A
mark holds no underscore: where the other words are joined by underscores, a mark at one end of them
is a mark at the same end of the words without underscores.
-/

namespace SceneBindings

namespace Text

lemma startsWith_iff {p s : List Char} : startsWith p s = true ↔ p <+: s :=
  List.isPrefixOf_iff_prefix

lemma endsWith_iff {p s : List Char} : endsWith p s = true ↔ p <:+ s := List.isSuffixOf_iff_suffix

/-! ### Joined words and glued words -/

section Joined

variable {p a b : List Char} {u : Char} {ws : List (List Char)}

lemma suffix_of_append_cons (hu : u ∉ p) (h : p <:+ a ++ u :: b) : p <:+ b := by
  have hb : b <:+ a ++ u :: b := (List.suffix_cons u b).trans (List.suffix_append a _)
  rcases List.suffix_or_suffix_of_suffix h hb with h | ⟨x, hx⟩
  · exact h
  rcases List.eq_nil_or_concat x with rfl | ⟨x, y, rfl⟩
  · exact ⟨[], hx.symm⟩
  -- The whole part is longer than `b`, so the separator stands in it.
  · obtain ⟨z, hz⟩ := h
    rw [← hx, List.concat_eq_append, List.append_assoc, ← List.append_assoc z] at hz
    have hcons : (z ++ x) ++ y :: b = a ++ u :: b := by simpa using hz
    have hyu := List.append_inj_right' hcons rfl
    simp only [List.cons.injEq, and_true] at hyu
    simp [← hx, hyu] at hu

lemma prefix_flatten_of_joinWith (hu : u ∉ p) (h : p <+: joinWith [u] ws) : p <+: ws.flatten := by
  match ws with
  | [] => exact h
  | [w] => simpa [joinWith] using h
  | w :: v :: vs =>
    rw [joinWith, List.append_assoc, List.singleton_append] at h
    · exact (prefix_of_append_cons hu h).trans (by simp)
    · simp

lemma suffix_flatten_of_joinWith (hu : u ∉ p) (h : p <:+ joinWith [u] ws) : p <:+ ws.flatten := by
  induction ws with
  | nil => exact h
  | cons w ws ih =>
    cases ws with
    | nil => simpa [joinWith] using h
    | cons v vs =>
      rw [joinWith, List.append_assoc, List.singleton_append] at h
      · exact (ih (suffix_of_append_cons hu h)).trans (List.suffix_append w _)
      · simp

lemma joinWith_cons (hws : ws ≠ []) (w : List Char) :
    joinWith [u] (w :: ws) = w ++ u :: joinWith [u] ws := by
  obtain ⟨v, vs, rfl⟩ := List.exists_cons_of_ne_nil hws
  simp [joinWith]

lemma joinWith_concat (hws : ws ≠ []) (w : List Char) :
    joinWith [u] (ws ++ [w]) = joinWith [u] ws ++ u :: w := by
  induction ws with
  | nil => exact absurd rfl hws
  | cons v ws ih =>
    by_cases hws : ws = []
    · simp [hws, joinWith]
    · rw [List.cons_append, joinWith_cons (by simp), joinWith_cons hws, ih hws, List.append_assoc]
      rfl

lemma joinWith_ne_nil (hws : ws ≠ []) (hne : ∀ w ∈ ws, w ≠ []) : joinWith [u] ws ≠ [] := by
  obtain ⟨w, ws, rfl⟩ := List.exists_cons_of_ne_nil hws
  have hw := hne w List.mem_cons_self
  cases ws with
  | nil => exact hw
  | cons v vs => simp [joinWith]

lemma map_joinWith (f : Char → Char) (ws : List (List Char)) :
    (joinWith [u] ws).map f = joinWith [f u] (ws.map (List.map f)) := by
  induction ws with
  | nil => rfl
  | cons w ws ih =>
    by_cases hws : ws = []
    · simp [hws, joinWith]
    · rw [joinWith_cons hws, List.map_cons, joinWith_cons (by simpa using hws), List.map_append,
        List.map_cons, ih]

end Joined

end Text

namespace Naming

open Text

/-! ### Small forms -/

/-- The small form of a text of ASCII characters. -/
def small (s : List Char) : List Char := s.map Char.toLower

/-- Letters and digits only. -/
def IsPlain (s : List Char) : Prop := ∀ d ∈ s, d.isAlphanum = true

instance : DecidablePred IsPlain := fun s => List.decidableBAll _ s

section Small

variable {s v w : List Char} {c : Char}

@[simp] lemma length_small (s : List Char) : (small s).length = s.length := List.length_map ..

@[simp] lemma small_append (s t : List Char) : small (s ++ t) = small s ++ small t :=
  List.map_append

@[simp] lemma small_cons (c : Char) (s : List Char) : small (c :: s) = c.toLower :: small s :=
  List.map_cons

lemma isAlphanum_ascii (h : c.isAlphanum = true) : c.toNat < 128 := by
  have := isAlphanum_iff.mp h
  omega

lemma isAlphanum_toLower (h : c.isAlphanum = true) : c.toLower.isAlphanum = true := by
  have hall : ∀ n < 128, (Char.ofNat n).isAlphanum = true →
      (Char.ofNat n).toLower.isAlphanum = true := by decide +kernel
  exact ascii_of_forall (p := fun c => c.isAlphanum = true → c.toLower.isAlphanum = true) hall
    (isAlphanum_ascii h) h

lemma toLower_toLower (h : c.isAlphanum = true) : c.toLower.toLower = c.toLower := by
  have hall : ∀ n < 128, (Char.ofNat n).toLower.toLower = (Char.ofNat n).toLower := by
    decide +kernel
  exact ascii_of_forall (p := fun c => c.toLower.toLower = c.toLower) hall (isAlphanum_ascii h)

namespace IsPlain

lemma append (hs : IsPlain s) (hw : IsPlain w) : IsPlain (s ++ w) := List.forall_mem_append.mpr ⟨hs, hw⟩

lemma flatten {ws : List (List Char)} (hws : ∀ w ∈ ws, IsPlain w) : IsPlain ws.flatten := by
  intro d hd
  obtain ⟨w, hw, hd⟩ := List.mem_flatten.mp hd
  exact hws w hw d hd

lemma small (hs : IsPlain s) : IsPlain (small s) := by
  intro d hd
  obtain ⟨c, hc, rfl⟩ := List.mem_map.mp hd
  exact isAlphanum_toLower (hs c hc)

lemma small_small (hs : IsPlain s) : Naming.small (Naming.small s) = Naming.small s := by
  rw [Naming.small, Naming.small, List.map_map]
  exact List.map_congr_left fun c hc => toLower_toLower (hs c hc)

lemma score_not_mem (hs : IsPlain s) : '_' ∉ s := fun h => absurd (hs '_' h) (by decide)

lemma identifier (hs : IsPlain s) : ∀ d ∈ s, isIdentifierChar d = true :=
  fun d hd => by rw [isIdentifierChar, hs d hd, Bool.true_or]

lemma identifier_joinWith {ws : List (List Char)} (hws : ∀ w ∈ ws, IsPlain w) :
    ∀ d ∈ joinWith ['_'] ws, isIdentifierChar d = true := by
  intro d hd
  rcases mem_joinWith hd with hd | ⟨w, hw, hd⟩
  · rw [List.mem_singleton.mp hd]
    rfl
  · exact (hws w hw).identifier d hd

end IsPlain

lemma lower_eq_small (hs : ∀ d ∈ s, isIdentifierChar d = true) : lower s = small s :=
  lower_of_ascii (ascii_of_letters hs)

/-- A word as it is, or in small letters. -/
def InCase (w v : List Char) : Prop := v = w ∨ v = small w

namespace InCase

variable (h : InCase w v) (hw : IsPlain w)

include h hw

lemma plain : IsPlain v := by
  rcases h with rfl | rfl
  · exact hw
  · exact hw.small

lemma small_eq : Naming.small v = Naming.small w := by
  rcases h with rfl | rfl
  · rfl
  · exact hw.small_small

end InCase

end Small

/-! ### Type words and abbreviations -/

/-- A word with one capital at its head. -/
def titled : List Char → List Char
  | [] => []
  | c :: r => c.toUpper :: small r

/-- How a type word and its abbreviation are told apart from each other, and from themselves where
they overlap: no capital within the type word stands where a second copy of it could begin. -/
structure IsMark (short word : List Char) : Prop where
  plain : IsPlain word
  plain_short : IsPlain short
  shorter : short.length < word.length
  short_ne_nil : short ≠ []
  capital : upperAt 0 word = true
  alone : (abbreviations.filter fun a => [word].contains a.2) = [(short, word)]
  unlike : ¬ small short <:+ small word
  uncut : ∀ i < word.length, 0 < i → upperAt i word = true →
    ¬ (small word).drop (word.length - i) <+: small word
  plain_titled : IsPlain (titled short)
  small_titled : small (titled short) = small short
  titled_first : upperAt 0 (titled short) = true
  titled_rest : ∀ i < short.length, 0 < i → upperAt i (titled short) = false

variable {short word : List Char}

lemma isMark_of_mem (h : (short, word) ∈ abbreviations) : IsMark short word := by
  have hall : ∀ a ∈ abbreviations, IsPlain a.2 ∧ IsPlain a.1 ∧ a.1.length < a.2.length ∧ a.1 ≠ [] ∧
      upperAt 0 a.2 = true ∧ (abbreviations.filter fun b => [a.2].contains b.2) = [a] ∧
      ¬ small a.1 <:+ small a.2 ∧ ∀ i < a.2.length, 0 < i → upperAt i a.2 = true →
        ¬ (small a.2).drop (a.2.length - i) <+: small a.2 := by
    decide +kernel
  have htitled : ∀ a ∈ abbreviations, IsPlain (titled a.1) ∧ small (titled a.1) = small a.1 ∧
      upperAt 0 (titled a.1) = true ∧
        ∀ i < a.1.length, 0 < i → upperAt i (titled a.1) = false := by
    decide +kernel
  obtain ⟨hplain, hshort, hlt, hne, hcapital, halone, hunlike, huncut⟩ := hall _ h
  obtain ⟨htplain, hsmall, hfirst, hrest⟩ := htitled _ h
  exact ⟨hplain, hshort, hlt, hne, hcapital, halone, hunlike, huncut, htplain, hsmall, hfirst, hrest⟩

lemma IsMark.word_ne_nil (h : IsMark short word) : word ≠ [] := by
  rintro rfl
  exact absurd h.shorter (Nat.not_lt_zero _)

/-- Words that show no mark at either end when they stand side by side. -/
structure IsBare (short word : List Char) (bs : List (List Char)) : Prop where
  ne_nil : bs ≠ []
  words_ne_nil : ∀ b ∈ bs, b ≠ []
  plain : ∀ b ∈ bs, IsPlain b
  unlike : ∀ m ∈ [word, short], ¬ small m <+: small bs.flatten ∧ ¬ small m <:+ small bs.flatten

lemma small_flatten (bs : List (List Char)) : small bs.flatten = (bs.map small).flatten :=
  List.map_flatten

lemma small_joinWith (bs : List (List Char)) :
    small (joinWith ['_'] bs) = joinWith ['_'] (bs.map small) :=
  map_joinWith Char.toLower bs

namespace IsBare

variable {bs : List (List Char)} (h : IsBare short word bs)

include h

lemma small : IsBare short word (bs.map small) where
  ne_nil := by simpa using h.ne_nil
  words_ne_nil := by simpa [Naming.small] using h.words_ne_nil
  plain := by
    intro b hb
    obtain ⟨c, hc, rfl⟩ := List.mem_map.mp hb
    exact (h.plain c hc).small
  unlike := by
    rw [← small_flatten, (IsPlain.flatten h.plain).small_small]
    exact h.unlike

lemma head?_ne : (joinWith ['_'] bs).head? ≠ some '_' := by
  intro hscore
  obtain ⟨b, bs, rfl⟩ := List.exists_cons_of_ne_nil h.ne_nil
  obtain ⟨c, r, rfl⟩ := List.exists_cons_of_ne_nil (h.words_ne_nil b (by simp))
  have hc : c = '_' := by cases bs <;> simpa [joinWith] using hscore
  exact (h.plain (c :: r) List.mem_cons_self).score_not_mem (by simp [hc])

/-- A mark that does not begin the glued words does not begin the joined ones. -/
lemma not_prefix {m : List Char} (hm : m ∈ [word, short]) (hplain : IsPlain m) :
    ¬ Naming.small m <+: Naming.small (joinWith ['_'] bs) := by
  intro hpre
  rw [small_joinWith] at hpre
  refine (h.unlike m hm).1 ?_
  rw [small_flatten]
  exact prefix_flatten_of_joinWith hplain.small.score_not_mem hpre

lemma not_suffix {m : List Char} (hm : m ∈ [word, short]) (hplain : IsPlain m) :
    ¬ Naming.small m <:+ Naming.small (joinWith ['_'] bs) := by
  intro hsuf
  rw [small_joinWith] at hsuf
  refine (h.unlike m hm).2 ?_
  rw [small_flatten]
  exact suffix_flatten_of_joinWith hplain.small.score_not_mem hsuf

end IsBare

/-! ### One rule at a time -/

section Rules

variable {t : List Char} (ht : ∀ d ∈ t, isIdentifierChar d = true) (hword : IsPlain word)

include ht hword

lemma whole?_eq_none (h : small t ≠ small word) : whole? t word = none := by
  rw [whole?, lower_eq_small ht, lower_eq_small hword.identifier, if_neg h]

lemma joinedSuffix?_eq_none (h : ¬ '_' :: small word <:+ small t) : joinedSuffix? t word = none := by
  rw [joinedSuffix?, lower_eq_small ht, lower_eq_small hword.identifier]
  exact if_neg fun hends => h (endsWith_iff.mp hends)

lemma gluedPrefix?_eq_none (h : small word <+: small t → upperAt word.length t = false) :
    gluedPrefix? t word = none := by
  rw [gluedPrefix?, lower_eq_small ht, lower_eq_small hword.identifier]
  refine if_neg fun hfires => ?_
  rw [Bool.and_eq_true] at hfires
  exact ne_true_of_eq_false (h (startsWith_iff.mp hfires.1)) hfires.2

lemma joinedPrefix?_eq_none (h : ¬ small word ++ ['_'] <+: small t) :
    joinedPrefix? t word = none := by
  rw [joinedPrefix?, lower_eq_small ht, lower_eq_small hword.identifier]
  exact if_neg fun hstarts => h (startsWith_iff.mp hstarts)

lemma gluedSuffix?_eq_none (h : ¬ small word <:+ small t) : gluedSuffix? t word = none := by
  rw [gluedSuffix?, lower_eq_small ht, lower_eq_small hword.identifier]
  refine if_neg fun hfires => ?_
  rw [Bool.and_eq_true, Bool.and_eq_true] at hfires
  exact h (endsWith_iff.mp hfires.1.2)

end Rules

/-! ### Where a word starts -/

section UpperAt

variable {s t : List Char} {i : Nat}

lemma upperAt_append (h : s.length ≤ i) : upperAt i (s ++ t) = upperAt (i - s.length) t := by
  rw [upperAt, List.getElem?_append_right h, upperAt]

lemma upperAt_append_length (s t : List Char) : upperAt s.length (s ++ t) = upperAt 0 t := by
  rw [upperAt_append (Nat.le_refl _), Nat.sub_self]

lemma upperAt_append_of_lt (h : i < s.length) : upperAt i (s ++ t) = upperAt i s := by
  rw [upperAt, List.getElem?_append_left h, upperAt]

/-- A large letter that no other large letter stands before. -/
lemma wordStartsAtLast_append (hne : s ≠ []) (hlast : upperAt (s.length - 1) s = false)
    (hfirst : upperAt 0 t = true) : wordStartsAtLast t.length (s ++ t) = true := by
  have hpos := List.length_pos_iff.mpr hne
  have hlen : (s ++ t).length - t.length = s.length := by simp
  rw [wordStartsAtLast, hlen, upperAt_append_length, hfirst, upperAt_append_of_lt (by omega), hlast]
  rfl

lemma dropLast_append (hn : t.length = i) (s : List Char) : dropLast i (s ++ t) = s := by
  rw [dropLast, List.length_append, hn, Nat.add_sub_cancel, List.take_left]

end UpperAt

/-! ### The rule that fires -/

section Fires

variable {s t v : List Char}

lemma stripMarker_of_rules (hm : IsMark short word)
    (h : (whole? t word <|> joinedSuffix? t word <|> gluedPrefix? t word <|> joinedPrefix? t word <|>
      gluedSuffix? t word <|> abbreviated? t short) = some s) :
    stripMarker (some word) t = s := by
  have hword : word.isEmpty = false := List.isEmpty_eq_false_iff.mpr hm.word_ne_nil
  have hone : stripOne? [word] t = some s := by
    rw [stripOne?, hm.alone]
    simpa only [List.findSome?_singleton] using h
  rw [stripMarker, hword, hone]
  rfl

variable (ht : ∀ d ∈ t, isIdentifierChar d = true) (hword : IsPlain word)

include ht hword

lemma joinedSuffix?_of_small (heq : t = s ++ '_' :: v) (hv : small v = small word) :
    joinedSuffix? t word = some s := by
  have hlen : v.length = word.length := by simpa using congrArg List.length hv
  have hends : '_' :: small word <:+ small t := by
    rw [heq, small_append, small_cons, hv]
    exact List.suffix_append _ _
  rw [joinedSuffix?, lower_eq_small ht, lower_eq_small hword.identifier, heq,
    dropLast_append (by simp [hlen])]
  rw [heq] at hends
  exact if_pos (endsWith_iff.mpr hends)

lemma joinedPrefix?_of_small (heq : t = v ++ '_' :: s) (hv : small v = small word) :
    joinedPrefix? t word = some s := by
  have hlen : v.length = word.length := by simpa using congrArg List.length hv
  have hstarts : small word ++ ['_'] <+: small t := by
    rw [heq, small_append, small_cons, hv]
    exact ⟨small s, by simp⟩
  have hdrop : t.drop (word.length + 1) = s := by
    rw [heq, ← hlen, ← List.drop_drop, List.drop_left]
    rfl
  rw [joinedPrefix?, lower_eq_small ht, lower_eq_small hword.identifier, hdrop]
  exact if_pos (startsWith_iff.mpr hstarts)

lemma gluedPrefix?_of_capital (heq : t = word ++ s) (hs : upperAt 0 s = true) :
    gluedPrefix? t word = some s := by
  have hstarts : small word <+: small t := by
    rw [heq, small_append]
    exact List.prefix_append _ _
  have hupper : upperAt word.length t = true := by rw [heq, upperAt_append_length, hs]
  rw [gluedPrefix?, lower_eq_small ht, lower_eq_small hword.identifier,
    startsWith_iff.mpr hstarts, hupper, heq, List.drop_left]
  rfl

lemma gluedSuffix?_of_capital (heq : t = s ++ word) (hne : s ≠ [])
    (hlast : upperAt (s.length - 1) s = false) (hfirst : upperAt 0 word = true) :
    gluedSuffix? t word = some s := by
  have hlong : word.length < t.length := by
    have := List.length_pos_iff.mpr hne
    rw [heq, List.length_append]
    omega
  have hends : small word <:+ small t := by
    rw [heq, small_append]
    exact List.suffix_append _ _
  have hstarts := wordStartsAtLast_append hne hlast hfirst
  rw [← heq] at hstarts
  rw [gluedSuffix?, lower_eq_small ht, lower_eq_small hword.identifier, endsWith_iff.mpr hends,
    hstarts, decide_eq_true hlong, heq, dropLast_append rfl]
  rfl

end Fires

section Abbreviated

variable {s t v : List Char} (ht : ∀ d ∈ t, isIdentifierChar d = true) (hshort : IsPlain short)

include ht hshort

/-- `rest_Short` -/
lemma abbreviated?_joinedSuffix (heq : t = s ++ '_' :: v) (hv : small v = small short) :
    abbreviated? t short = some s := by
  have hlen : v.length = short.length := by simpa using congrArg List.length hv
  have hends : '_' :: small short <:+ small t := by
    rw [heq, small_append, small_cons, hv]
    exact List.suffix_append _ _
  have hlong : ¬ t.length ≤ short.length := by
    rw [heq, List.length_append, List.length_cons]
    omega
  rw [abbreviated?, if_neg hlong, lower_eq_small ht, lower_eq_small hshort.identifier,
    if_pos (endsWith_iff.mpr hends), heq, dropLast_append (by simp [hlen])]

/-- `Short_rest` -/
lemma abbreviated?_joinedPrefix (heq : t = v ++ '_' :: s) (hv : small v = small short)
    (hends : ¬ small short <:+ small t) (hs : s.head? ≠ some '_') :
    abbreviated? t short = some s := by
  have hlen : v.length = short.length := by simpa using congrArg List.length hv
  have hlong : ¬ t.length ≤ short.length := by
    rw [heq, List.length_append, List.length_cons]
    omega
  have hjoined : ¬ '_' :: small short <:+ small t :=
    fun h => hends ((List.suffix_cons '_' _).trans h)
  have hglued : endsWith (small short) (small t) = false :=
    eq_false_of_ne_true (mt endsWith_iff.mp hends)
  have hstarts : small short <+: small t := by
    rw [heq, small_append, hv]
    exact List.prefix_append _ _
  have hat : t[short.length]? = some '_' := by
    rw [heq, ← hlen]
    simp
  have hdrop : (t.drop short.length).dropWhile (· == '_') = s := by
    rw [heq, ← hlen, List.drop_left, List.dropWhile_cons_of_pos (by simp)]
    cases s with
    | nil => rfl
    | cons c r => exact List.dropWhile_cons_of_neg (by simpa using hs)
  rw [abbreviated?, if_neg hlong, lower_eq_small ht, lower_eq_small hshort.identifier,
    if_neg (mt endsWith_iff.mp hjoined), hglued, startsWith_iff.mpr hstarts, hat, hdrop]
  simp

end Abbreviated

/-- `restShort`, with one capital -/
lemma abbreviated?_gluedSuffix {s t v : List Char} (ht : IsPlain t) (hshort : IsPlain short)
    (heq : t = s ++ v) (hv : small v = small short) (hne : s ≠ [])
    (hlast : upperAt (s.length - 1) s = false) (hfirst : upperAt 0 v = true) :
    abbreviated? t short = some s := by
  have hlen : v.length = short.length := by simpa using congrArg List.length hv
  have hpos := List.length_pos_iff.mpr hne
  have hlong : ¬ t.length ≤ short.length := by
    rw [heq, List.length_append]
    omega
  have hjoined : ¬ '_' :: small short <:+ small t :=
    fun h => ht.small.score_not_mem (h.subset List.mem_cons_self)
  have hends : small short <:+ small t := by
    rw [heq, small_append, hv]
    exact List.suffix_append _ _
  have hstarts := wordStartsAtLast_append hne hlast hfirst
  rw [← heq, hlen] at hstarts
  rw [abbreviated?, if_neg hlong, lower_eq_small ht.identifier, lower_eq_small hshort.identifier,
    if_neg (mt endsWith_iff.mp hjoined), endsWith_iff.mpr hends, hstarts, heq,
    dropLast_append hlen]
  rfl

/-! ### Words joined by underscores -/

/-- The words of a name in one of four orders: the type word or the abbreviation, last or first. -/
def orders (bs : List (List Char)) (word short : List Char) : List (List (List Char)) :=
  [bs ++ [word], word :: bs, bs ++ [short], short :: bs]

/-- Where the type word stands at neither end, the abbreviation is what comes off. -/
lemma stripMarker_of_abbreviated {s t : List Char} (hm : IsMark short word)
    (ht : ∀ d ∈ t, isIdentifierChar d = true) (hends : ¬ small word <:+ small t)
    (hglued : small word <+: small t → upperAt word.length t = false)
    (hjoined : ¬ small word ++ ['_'] <+: small t) (h : abbreviated? t short = some s) :
    stripMarker (some word) t = s := by
  refine stripMarker_of_rules hm ?_
  rw [whole?_eq_none ht hm.plain (fun heq => hends (heq ▸ List.suffix_refl _)),
    joinedSuffix?_eq_none ht hm.plain (fun hs => hends ((List.suffix_cons '_' _).trans hs)),
    gluedPrefix?_eq_none ht hm.plain hglued, joinedPrefix?_eq_none ht hm.plain hjoined,
    gluedSuffix?_eq_none ht hm.plain hends, h]
  rfl

section Joined

variable {bs ws : List (List Char)} {v a : List Char}

lemma identifier_score {s t : List Char} (hs : ∀ d ∈ s, isIdentifierChar d = true)
    (ht : ∀ d ∈ t, isIdentifierChar d = true) : ∀ d ∈ s ++ '_' :: t, isIdentifierChar d = true :=
  List.forall_mem_append.mpr ⟨hs, List.forall_mem_cons.mpr ⟨rfl, ht⟩⟩

/-- A name with a word more than the type word is not the type word. -/
lemma small_ne_of_score {s t : List Char} (h : s.length = word.length ∨ t.length = word.length) :
    small (s ++ '_' :: t) ≠ small word := by
  intro heq
  have hlen := congrArg List.length heq
  simp only [length_small, List.length_append, List.length_cons] at hlen
  omega

variable (hm : IsMark short word) (hb : IsBare short word bs)

include hm hb

lemma stripMarker_word_last (hv : InCase word v) :
    stripMarker (some word) (joinWith ['_'] bs ++ '_' :: v) = joinWith ['_'] bs := by
  have hsmall := hv.small_eq hm.plain
  have ht := identifier_score (IsPlain.identifier_joinWith hb.plain) (hv.plain hm.plain).identifier
  refine stripMarker_of_rules hm ?_
  rw [whole?_eq_none ht hm.plain (small_ne_of_score (.inr (by simpa using congrArg List.length hsmall))),
    joinedSuffix?_of_small ht hm.plain rfl hsmall]
  rfl

lemma stripMarker_word_first (hv : InCase word v) :
    stripMarker (some word) (v ++ '_' :: joinWith ['_'] bs) = joinWith ['_'] bs := by
  have hsmall := hv.small_eq hm.plain
  have hlen : v.length = word.length := by simpa using congrArg List.length hsmall
  have ht := identifier_score (hv.plain hm.plain).identifier (IsPlain.identifier_joinWith hb.plain)
  have hscore : '_' ∉ small word := hm.plain.small.score_not_mem
  have hends : ¬ '_' :: small word <:+ small (v ++ '_' :: joinWith ['_'] bs) := by
    intro h
    rw [small_append, small_cons] at h
    exact hb.not_suffix (by simp) hm.plain
      (suffix_of_append_cons hscore ((List.suffix_cons '_' _).trans h))
  have hgap : upperAt word.length (v ++ '_' :: joinWith ['_'] bs) = false := by
    rw [← hlen, upperAt_append_length]
    rfl
  refine stripMarker_of_rules hm ?_
  rw [whole?_eq_none ht hm.plain (small_ne_of_score (.inl hlen)),
    joinedSuffix?_eq_none ht hm.plain hends, gluedPrefix?_eq_none ht hm.plain fun _ => hgap,
    joinedPrefix?_of_small ht hm.plain rfl hsmall]
  rfl

lemma stripMarker_short_last (ha : InCase short a) :
    stripMarker (some word) (joinWith ['_'] bs ++ '_' :: a) = joinWith ['_'] bs := by
  have hsmall := ha.small_eq hm.plain_short
  have ht :=
    identifier_score (IsPlain.identifier_joinWith hb.plain) (ha.plain hm.plain_short).identifier
  have hscore : '_' ∉ small word := hm.plain.small.score_not_mem
  have hends : ¬ small word <:+ small (joinWith ['_'] bs ++ '_' :: a) := by
    intro h
    rw [small_append, small_cons, hsmall] at h
    have hle := (suffix_of_append_cons hscore h).length_le
    have := hm.shorter
    simp only [length_small] at hle
    omega
  have hstarts : ¬ small word <+: small (joinWith ['_'] bs ++ '_' :: a) := by
    intro h
    rw [small_append, small_cons] at h
    exact hb.not_prefix (by simp) hm.plain (prefix_of_append_cons hscore h)
  exact stripMarker_of_abbreviated hm ht hends (fun h => absurd h hstarts)
    (fun h => hstarts ((List.prefix_append _ _).trans h))
    (abbreviated?_joinedSuffix ht hm.plain_short rfl hsmall)

lemma stripMarker_short_first (ha : InCase short a) :
    stripMarker (some word) (a ++ '_' :: joinWith ['_'] bs) = joinWith ['_'] bs := by
  have hsmall := ha.small_eq hm.plain_short
  have ht :=
    identifier_score (ha.plain hm.plain_short).identifier (IsPlain.identifier_joinWith hb.plain)
  have hends : ∀ m ∈ [word, short], IsPlain m →
      ¬ small m <:+ small (a ++ '_' :: joinWith ['_'] bs) := by
    intro m hmem hplain h
    rw [small_append, small_cons] at h
    exact hb.not_suffix hmem hplain (suffix_of_append_cons hplain.small.score_not_mem h)
  have hstarts : ¬ small word <+: small (a ++ '_' :: joinWith ['_'] bs) := by
    intro h
    rw [small_append, small_cons, hsmall] at h
    have hle := (prefix_of_append_cons hm.plain.small.score_not_mem h).length_le
    have := hm.shorter
    simp only [length_small] at hle
    omega
  exact stripMarker_of_abbreviated hm ht (hends word (by simp) hm.plain)
    (fun h => absurd h hstarts) (fun h => hstarts ((List.prefix_append _ _).trans h))
    (abbreviated?_joinedPrefix ht hm.plain_short rfl hsmall
      (hends short (by simp) hm.plain_short) hb.head?_ne)

/-- **Words joined by underscores.** Whichever end the mark stands at, the words without it remain. -/
theorem stripMarker_orders (hv : InCase word v) (ha : InCase short a) (hws : ws ∈ orders bs v a) :
    stripMarker (some word) (joinWith ['_'] ws) = joinWith ['_'] bs := by
  simp only [orders, List.mem_cons, List.not_mem_nil, or_false] at hws
  rcases hws with rfl | rfl | rfl | rfl
  · rw [joinWith_concat hb.ne_nil]
    exact stripMarker_word_last hm hb hv
  · rw [joinWith_cons hb.ne_nil]
    exact stripMarker_word_first hm hb hv
  · rw [joinWith_concat hb.ne_nil]
    exact stripMarker_short_last hm hb ha
  · rw [joinWith_cons hb.ne_nil]
    exact stripMarker_short_first hm hb ha

end Joined

/-! ### Words without a gap -/

section Glued

variable {f : List Char}

/-- Words without a gap between them, as the camel case has it: no mark at either end, a capital
first, none last. -/
structure IsCamel (short word f : List Char) : Prop where
  ne_nil : f ≠ []
  plain : IsPlain f
  unlike : ∀ m ∈ [word, short], ¬ small m <+: small f ∧ ¬ small m <:+ small f
  first : upperAt 0 f = true
  last : upperAt (f.length - 1) f = false

/-- What a type word begins in is shorter than it, for the type word is no prefix of the words. -/
lemma IsCamel.length_lt (hf : IsCamel short word f) {v : List Char}
    (h : small word <+: small (f ++ v)) : f.length < word.length := by
  by_contra hle
  rw [small_append] at h
  have hpre := List.prefix_of_prefix_length_le h (List.prefix_append _ _)
    (by simpa using Nat.not_lt.mp hle)
  exact (hf.unlike word (by simp)).1 hpre

variable (hm : IsMark short word) (hf : IsCamel short word f)

include hm hf

lemma stripMarker_glued_word_first : stripMarker (some word) (word ++ f) = f := by
  have ht := hm.plain.append hf.plain
  have hscore : '_' ∉ small (word ++ f) := ht.small.score_not_mem
  have hwhole : small (word ++ f) ≠ small word := by
    intro heq
    have hlen := congrArg List.length heq
    have := List.length_pos_iff.mpr hf.ne_nil
    simp only [length_small, List.length_append] at hlen
    omega
  refine stripMarker_of_rules hm ?_
  rw [whole?_eq_none ht.identifier hm.plain hwhole,
    joinedSuffix?_eq_none ht.identifier hm.plain fun h => hscore (h.subset List.mem_cons_self),
    gluedPrefix?_of_capital ht.identifier hm.plain rfl hf.first]
  rfl

lemma stripMarker_glued_word_last : stripMarker (some word) (f ++ word) = f := by
  have ht := hf.plain.append hm.plain
  have hpos := List.length_pos_iff.mpr hf.ne_nil
  have hscore : '_' ∉ small (f ++ word) := ht.small.score_not_mem
  have hwhole : small (f ++ word) ≠ small word := by
    intro heq
    have hlen := congrArg List.length heq
    simp only [length_small, List.length_append] at hlen
    omega
  -- A copy of the type word at the head of the name would overlap the one at its end.
  have hglued : small word <+: small (f ++ word) → upperAt word.length (f ++ word) = false := by
    intro h
    have hlt := hf.length_lt h
    rw [upperAt_append (by omega)]
    refine eq_false_of_ne_true fun hupper => hm.uncut _ (by omega) (by omega) hupper ?_
    have hdrop := h.drop f.length
    rw [small_append, List.drop_left' (length_small f)] at hdrop
    rwa [Nat.sub_sub_self (Nat.le_of_lt hlt)]
  refine stripMarker_of_rules hm ?_
  rw [whole?_eq_none ht.identifier hm.plain hwhole,
    joinedSuffix?_eq_none ht.identifier hm.plain fun h => hscore (h.subset List.mem_cons_self),
    gluedPrefix?_eq_none ht.identifier hm.plain hglued,
    joinedPrefix?_eq_none ht.identifier hm.plain fun h => hscore (h.subset (by simp)),
    gluedSuffix?_of_capital ht.identifier hm.plain rfl hf.ne_nil hf.last hm.capital]
  rfl

lemma stripMarker_glued_short_last : stripMarker (some word) (f ++ titled short) = f := by
  have hlen : (titled short).length = short.length := by
    simpa using congrArg List.length hm.small_titled
  have ht := hf.plain.append hm.plain_titled
  have hpos := List.length_pos_iff.mpr hf.ne_nil
  have hscore : '_' ∉ small (f ++ titled short) := ht.small.score_not_mem
  have hends : ¬ small word <:+ small (f ++ titled short) := by
    intro h
    have hshort : small short <:+ small (f ++ titled short) := by
      rw [small_append, hm.small_titled]
      exact List.suffix_append _ _
    exact hm.unlike (List.suffix_of_suffix_length_le hshort h (by simpa using Nat.le_of_lt hm.shorter))
  have hglued : small word <+: small (f ++ titled short) →
      upperAt word.length (f ++ titled short) = false := by
    intro h
    have hlt := hf.length_lt h
    have hle := h.length_le
    simp only [length_small, List.length_append, hlen] at hle
    rw [upperAt_append (by omega)]
    by_cases hin : word.length - f.length < short.length
    · exact hm.titled_rest _ hin (by omega)
    · rw [upperAt, List.getElem?_eq_none (by omega)]
      rfl
  exact stripMarker_of_abbreviated hm ht.identifier hends hglued
    (fun h => hscore (h.subset (by simp)))
    (abbreviated?_gluedSuffix ht hm.plain_short rfl hm.small_titled hf.ne_nil hf.last
      hm.titled_first)

end Glued

end Naming

end SceneBindings
