import SceneBindings.Proofs.Naming.Markers

/-!
A canonical name is standardized: it is clean and ends with the type word. Making it again from
itself strips the type word that the first pass appended and capitalizes every word once more, which
changes a word only if the large form of its first letter has several letters.
-/

namespace SceneBindings

namespace Naming

open Text

variable {c : Capability} {word name s w : List Char}

lemma typeWord_letters (h : typeWordChars? c = some word) :
    word ≠ [] ∧ ∀ d ∈ word, isIdentifierChar d = true := by
  have hall : word ≠ [] ∧ word.all isIdentifierChar = true := by
    revert h
    cases c <;> rintro ⟨⟩ <;> decide
  exact ⟨hall.1, List.all_eq_true.mp hall.2⟩

lemma ascii_of_letters (h : ∀ d ∈ word, isIdentifierChar d = true) : ∀ d ∈ word, d.toNat < 128 :=
  fun d hd => Nat.lt_of_le_of_lt (toNat_lt_of_isIdentifierChar (h d hd)).2 (by decide)

lemma sigma_not_mem_of_ascii (h : ∀ d ∈ word, d.toNat < 128) : 'Σ' ∉ word :=
  fun hmem => absurd (h 'Σ' hmem) (by decide)

lemma lower_of_ascii (h : ∀ d ∈ word, d.toNat < 128) : lower word = word.map Char.toLower := by
  rw [lower, lowerAfter_eq_flatMap (sigma_not_mem_of_ascii h)]
  induction word with
  | nil => rfl
  | cons d r ih =>
    rw [List.forall_mem_cons] at h
    rw [List.flatMap_cons, lowerLetter_ascii h.1, ih h.2]
    rfl

/-! ### Canonical names are standardized -/

/-- What stands before the type word in the canonical name. -/
def baseFor (word name : List Char) : List Char := pascal (stripMarker (some word) (cleanup name))

lemma withType_of_base (h : baseFor word name ≠ []) :
    withType word name = baseFor word name ++ '_' :: word := by
  rw [withType]
  exact if_neg (ne_true_of_eq_false (List.isEmpty_eq_false_iff.mpr h))

lemma withType_of_no_base (h : baseFor word name = []) : withType word name = word := by
  rw [withType]
  exact if_pos (List.isEmpty_iff.mpr h)

lemma isClean_baseFor (word name : List Char) : IsClean (baseFor word name) :=
  ((isClean_cleanup name).part (stripMarker_isInfix _ _)).pascal

lemma isClean_withType (hword : ∀ d ∈ word, isIdentifierChar d = true) (name : List Char) :
    IsClean (withType word name) := by
  by_cases hbase : baseFor word name = []
  · rw [withType_of_no_base hbase]
    exact .of_identifier hword
  · rw [withType_of_base hbase]
    exact (isClean_baseFor word name).append_score (.of_identifier hword)

lemma withType_ne_nil (hword : word ≠ []) (name : List Char) : withType word name ≠ [] := by
  by_cases hbase : baseFor word name = []
  · rw [withType_of_no_base hbase]
    exact hword
  · rw [withType_of_base hbase]
    exact List.append_ne_nil_of_left_ne_nil hbase _

lemma cleanup_withType (h : typeWordChars? c = some word) (name : List Char) :
    cleanup (withType word name) = withType word name :=
  (isClean_withType (typeWord_letters h).2 name).cleanup_eq
    (withType_ne_nil (typeWord_letters h).1 name)

/-- The small form of a text ends with the small form of its last word, if that holds no sigma. -/
lemma lower_suffix_of_suffix (hword : 'Σ' ∉ word) (h : word <:+ name) :
    lower word <:+ lower name := by
  obtain ⟨t, rfl⟩ := h
  obtain ⟨u, cased, hu⟩ := exists_lowerAfter_append false t word
  refine ⟨u, ?_⟩
  rw [lower, lower, hu, lowerAfter_eq_flatMap hword, lowerAfter_eq_flatMap hword]

lemma suffix_withType (word name : List Char) : word <:+ withType word name := by
  by_cases hbase : baseFor word name = []
  · exact (withType_of_no_base hbase).symm ▸ List.suffix_refl word
  · rw [withType_of_base hbase]
    exact ⟨baseFor word name ++ ['_'], List.append_assoc _ _ _⟩

lemma isStandardized_withType (h : typeWordChars? c = some word) (name : List Char) :
    isStandardized (withType word name) c = true := by
  obtain ⟨hne, hletters⟩ := typeWord_letters h
  have hnonempty := List.isEmpty_eq_false_iff.mpr (withType_ne_nil hne name)
  have hends : endsWith (lower word) (lower (withType word name)) = true :=
    List.isSuffixOf_iff_suffix.mpr
      (lower_suffix_of_suffix (sigma_not_mem_of_ascii (ascii_of_letters hletters))
        (suffix_withType word name))
  rw [isStandardized, h]
  dsimp only
  rw [hnonempty, cleanup_withType h, beq_self_eq_true, carriesType, hends]
  rfl

lemma isStandardized_normalize (h : typeWordChars? c = some word) (name : List Char)
    (force : Bool) : isStandardized (normalize name c force) c = true := by
  rw [normalize, h]
  dsimp only
  split
  · next hkeep =>
    rw [Bool.and_eq_true] at hkeep
    exact hkeep.2
  · exact isStandardized_withType h name

lemma isStandardized_iff (h : typeWordChars? c = some word) : isStandardized name c = true ↔
    name ≠ [] ∧ cleanup name = name ∧ carriesType word name = true := by
  rw [isStandardized, h]
  dsimp only
  rw [Bool.and_eq_true, Bool.and_eq_true, Bool.not_eq_true', beq_iff_eq, List.isEmpty_eq_false_iff,
    and_assoc]

/-- The canonical name of a panel says that it is one, and that of an image does not. -/
lemma looksLikePanel_withType (name : List Char) :
    looksLikePanel (withType "Panel".toList name) = true ∧
      looksLikePanel (withType "Image".toList name) = false := by
  have hpanel := lower_suffix_of_suffix (by decide) (suffix_withType "Panel".toList name)
  have himage := lower_suffix_of_suffix (by decide) (suffix_withType "Image".toList name)
  refine ⟨List.isSuffixOf_iff_suffix.mpr hpanel, eq_false_of_ne_true fun h => ?_⟩
  have hends := List.isSuffixOf_iff_suffix.mp h
  have heq := (List.suffix_of_suffix_length_le hends himage (by decide)).eq_of_length (by decide)
  exact absurd heq (by decide)

lemma normalize_of_isStandardized (h : isStandardized name c = true) :
    normalize name c false = name := by
  rw [normalize]
  split
  · rfl
  · rw [h]
    rfl

/-! ### Capitalizing twice -/

/-- What follows the first letter of the large form is small already. This fails where a letter such
as the sharp `s` has a form of several large letters. -/
def StaysLarge (x : Char) : Prop := lower (upperLetter x).tail = (upperLetter x).tail

instance : DecidablePred StaysLarge := fun _ => inferInstanceAs (Decidable (_ = _))

lemma capitalize_capitalize_iff {x : Char} {r : List Char} :
    capitalize (capitalize (x :: r)) = capitalize (x :: r) ↔ StaysLarge x := by
  obtain ⟨y, t, hform⟩ := List.exists_cons_of_ne_nil (upperLetter_ne_nil x)
  have hsigma : 'Σ' ∉ t := by
    have htail := sigma_not_mem_tail_upperLetter x
    rwa [hform] at htail
  have hhead : upperLetter y = [y] := upperLetter_of_mem_head? (by rw [hform]; rfl)
  have honce : capitalize (x :: r) = y :: (t ++ lower r) := by
    rw [capitalize, hform, List.cons_append]
  have htwice : capitalize (capitalize (x :: r)) = y :: (lower t ++ lower r) := by
    rw [honce, capitalize, hhead, List.singleton_append, lower.eq_def r,
      lower_append_lowerAfter hsigma]
  rw [htwice, honce, List.cons_inj_right, List.append_left_inj, StaysLarge, hform, List.tail_cons]

/-- No capital of a capitalized word follows a small letter or a digit. -/
lemma isCamelStep_capitalize {a b : Char} (h : [a, b] <:+: capitalize w) :
    isCamelStep a b = false := by
  have hsmall : ∀ {r : List Char}, b ∈ lower r → isCamelStep a b = false := by
    intro r hb
    rw [isCamelStep, isUpper_of_mem_lowerAfter hb, Bool.and_false]
  cases w with
  | nil => cases List.infix_nil.mp h
  | cons x r =>
    rw [capitalize] at h
    rcases infix_append_cases h with h | ⟨s, hs, hsuffix, hpre⟩
    · exact hsmall (h.subset (List.mem_cons_of_mem a List.mem_cons_self))
    · obtain ⟨y, t, rfl⟩ := List.exists_cons_of_ne_nil hs
      obtain ⟨rfl, htail⟩ := List.cons_prefix_cons.mp hpre
      cases t with
      | nil => exact hsmall (htail.subset List.mem_cons_self)
      | cons z t =>
        have hlong : (upperLetter x).tail ≠ [] := by
          intro hnil
          have hlen := hsuffix.length_le
          have hone := congrArg List.length hnil
          rw [List.length_tail] at hone
          simp only [List.length_cons, List.length_nil] at hlen hone
          omega
        have hlarge := large_of_mem_upperLetter (hsuffix.subset List.mem_cons_self) hlong
        rw [isCamelStep, hlarge, Bool.false_and]

lemma undivided_capitalize (hw : w ∈ nameWords s) :
    Undivided isWordGap isCamelStep (capitalize w) where
  nonempty := by
    obtain ⟨x, r, rfl⟩ := List.exists_cons_of_ne_nil (ne_nil_of_mem_wordsCut hw)
    exact List.append_ne_nil_of_left_ne_nil (upperLetter_ne_nil x) _
  clear d hd := by
    by_contra hgap
    rw [Bool.not_eq_false] at hgap
    have hcase : isCaseless d = true := by
      rw [isWordGap, Bool.or_eq_true, beq_iff_eq] at hgap
      rcases hgap with rfl | hblank
      · decide +kernel
      · exact isCaseless_of_isBlank hblank
    rw [(mem_wordsCut hw (mem_of_mem_capitalize hd hcase)).2] at hgap
    cases hgap
  uncut _ _ h := isCamelStep_capitalize h

lemma nameWords_pascal (s : List Char) : nameWords (pascal s) = (nameWords s).map capitalize := by
  refine wordsCut_joinWith rfl fun v hv => ?_
  obtain ⟨w, hw, rfl⟩ := List.mem_map.mp hv
  exact undivided_capitalize hw

lemma pascal_pascal_iff (s : List Char) :
    pascal (pascal s) = pascal s ↔ ∀ w ∈ nameWords s, ∀ x ∈ w.head?, StaysLarge x := by
  have hwords : pascal (pascal s) = pascal s ↔
      ∀ w ∈ nameWords s, capitalize (capitalize w) = capitalize w := by
    rw [← List.map_inj_left]
    constructor
    · intro h
      have hcut := congrArg nameWords h
      rwa [nameWords_pascal, nameWords_pascal, List.map_map] at hcut
    · intro h
      rw [pascal, nameWords_pascal, List.map_map]
      exact congrArg (joinWith ['_']) h
  rw [hwords]
  refine forall₂_congr fun w hw => ?_
  obtain ⟨x, r, rfl⟩ := List.exists_cons_of_ne_nil (ne_nil_of_mem_wordsCut hw)
  rw [capitalize_capitalize_iff, List.head?_cons]
  exact ⟨fun h y hy => Option.mem_some_iff.mp hy ▸ h, fun h => h x rfl⟩

/-! ### Canonical names of canonical names -/

/-- A word after an underscore keeps its place when the name is made small. -/
lemma score_suffix_lower (hletters : ∀ d ∈ word, isIdentifierChar d = true) (name : List Char) :
    '_' :: lower word <:+ lower (name ++ '_' :: word) := by
  have hascii := ascii_of_letters hletters
  have hjoined : ∀ d ∈ '_' :: word, d.toNat < 128 :=
    List.forall_mem_cons.mpr ⟨by decide, hascii⟩
  have hscore : lower ('_' :: word) = '_' :: lower word := by
    rw [lower_of_ascii hjoined, lower_of_ascii hascii]
    rfl
  rw [← hscore]
  exact lower_suffix_of_suffix (sigma_not_mem_of_ascii hjoined) (List.suffix_append _ _)

lemma joinedSuffix?_append (hletters : ∀ d ∈ word, isIdentifierChar d = true) (name : List Char) :
    joinedSuffix? (name ++ '_' :: word) word = some name := by
  have hcut : dropLast (word.length + 1) (name ++ '_' :: word) = name := by
    rw [dropLast, List.length_append, List.length_cons, Nat.add_sub_cancel, List.take_left]
  rw [joinedSuffix?, hcut]
  exact if_pos (List.isSuffixOf_iff_suffix.mpr (score_suffix_lower hletters name))

/-- The second pass strips exactly what the first one appended. -/
lemma stripMarker_withType (hne : word ≠ []) (hletters : ∀ d ∈ word, isIdentifierChar d = true)
    (name : List Char) : stripMarker (some word) (withType word name) = baseFor word name := by
  have hown : ∀ {n s : List Char}, stripOne? [word] n = some s → stripMarker (some word) n = s := by
    intro n s hs
    rw [stripMarker, List.isEmpty_eq_false_iff.mpr hne, hs]
    rfl
  refine hown ?_
  by_cases hbase : baseFor word name = []
  · rw [withType_of_no_base hbase, hbase, stripOne?, List.findSome?_cons, whole?, if_pos rfl]
    rfl
  · rw [withType_of_base hbase]
    have hascii := ascii_of_letters hletters
    have hlong : lower (baseFor word name ++ '_' :: word) ≠ lower word := by
      intro heq
      have hlen := length_le_lowerAfter false (baseFor word name ++ '_' :: word)
      rw [← lower, heq, lower_of_ascii hascii, List.length_map, List.length_append,
        List.length_cons] at hlen
      omega
    rw [stripOne?, List.findSome?_cons, whole?, if_neg hlong, List.findSome?_nil,
      List.findSome?_cons, joinedSuffix?_append hletters]
    rfl

lemma withType_withType_iff (h : typeWordChars? c = some word) (name : List Char) :
    withType word (withType word name) = withType word name ↔
      ∀ w ∈ nameWords (stripMarker (some word) (cleanup name)), ∀ x ∈ w.head?, StaysLarge x := by
  obtain ⟨hne, hletters⟩ := typeWord_letters h
  have hagain : baseFor word (withType word name) = pascal (baseFor word name) := by
    rw [baseFor, cleanup_withType h, stripMarker_withType hne hletters]
  rw [← pascal_pascal_iff, ← baseFor]
  by_cases hbase : baseFor word name = []
  · rw [hbase] at hagain
    rw [withType_of_no_base hagain, withType_of_no_base hbase, hbase]
    exact iff_of_true rfl rfl
  · have hfirst := withType_of_base hbase
    rw [← hagain]
    by_cases hempty : baseFor word (withType word name) = []
    · rw [withType_of_no_base hempty, hempty]
      refine iff_of_false (fun heq => ?_) (Ne.symm hbase)
      have hlen := congrArg List.length (heq.trans hfirst)
      rw [List.length_append, List.length_cons] at hlen
      omega
    · rw [withType_of_base hempty, hfirst, List.append_left_inj]

end Naming

/-- Every canonical name is standardized if its role has a type word, and so it stays. -/
theorem Name.normalize_canonical (name : String) (c : Capability) (force : Bool) :
    Name.isStandardized (Name.normalize name c force) c = c.typeWord?.isSome ∧
      Name.normalize (Name.normalize name c force) c false = Name.normalize name c force := by
  have hchars : (Name.normalize name c force).toList = Naming.normalize name.toList c force :=
    String.toList_ofList
  have hnormalize : ∀ {s : List Char}, Naming.normalize s c false = s →
      Name.normalize (String.ofList s) c false = String.ofList s := by
    intro s hs
    rw [Name.normalize, Name.ofChars, String.toList_ofList, hs]
  rw [Name.isStandardized, hchars]
  cases hword : Naming.typeWordChars? c with
  | none =>
    have hnone : c.typeWord? = none := Option.map_eq_none_iff.mp hword
    refine ⟨by rw [Naming.isStandardized, hword, hnone]; rfl, hnormalize ?_⟩
    rw [Naming.normalize, hword]
  | some word =>
    have hsome : c.typeWord?.isSome = true := by
      rw [← Option.isSome_map, ← Naming.typeWordChars?, hword]
      rfl
    have hstandard := Naming.isStandardized_normalize hword name.toList force
    exact ⟨by rw [hstandard, hsome],
      hnormalize (Naming.normalize_of_isStandardized hstandard)⟩

/-- Forcing a canonical name a second time leaves it alone just if the first letter of each of its
words stays large. -/
theorem Name.normalize_twice_iff (name : String) (c : Capability) :
    Name.normalize (Name.normalize name c true) c true = Name.normalize name c true ↔
      ∀ word, c.typeWord? = some word →
        ∀ w ∈ Naming.nameWords
          (Naming.stripMarker (some word.toList) (Naming.cleanup name.toList)),
          ∀ x ∈ w.head?, Naming.StaysLarge x := by
  have hchars : Name.normalize (Name.normalize name c true) c true = Name.normalize name c true ↔
      Naming.normalize (Naming.normalize name.toList c true) c true =
        Naming.normalize name.toList c true := by
    rw [Name.normalize, Name.normalize, Name.ofChars, Name.ofChars, String.toList_ofList,
      String.ofList_inj]
  rw [hchars]
  cases hword : c.typeWord? with
  | none =>
    have hnone : Naming.typeWordChars? c = none := Option.map_eq_none_iff.mpr hword
    rw [Naming.normalize, Naming.normalize, hnone]
    exact iff_of_true rfl (by rintro _ ⟨⟩)
  | some word =>
    have hsome : Naming.typeWordChars? c = some word.toList :=
      Option.map_eq_some_iff.mpr ⟨word, hword, rfl⟩
    have hforced : ∀ s, Naming.normalize s c true = Naming.withType word.toList s := by
      intro s
      rw [Naming.normalize, hsome]
      rfl
    rw [hforced, hforced, Naming.withType_withType_iff hsome]
    exact ⟨fun h _ heq => Option.some.inj heq ▸ h, fun h => h word rfl⟩

/-- The sharp `s` becomes two large letters, of which the second pass makes the second one small. -/
theorem Name.not_normalize_twice :
    Name.normalize "ßa" .button true = "SSa_Button" ∧
      Name.normalize "SSa_Button" .button true = "Ssa_Button" ∧
      ¬ ∀ (name : String) (c : Capability),
        Name.normalize (Name.normalize name c true) c true = Name.normalize name c true := by
  refine ⟨by decide +kernel, by decide +kernel, fun h => ?_⟩
  exact absurd (h "ßa" .button) (by decide +kernel)

end SceneBindings
