import SceneBindings.Proofs.Naming.PartNames

/-!
What the names of parts begin with. A canonical name made of ASCII characters gives them all of
itself: taking its type word off gives back its base, and the base is capitalized already. A name
that says no more than its type gives them the type word.
-/

namespace SceneBindings

namespace Naming

open Text

variable {word name : List Char}

lemma staysLarge_of_ascii {x : Char} (h : x.toNat < 128) : StaysLarge x := by
  rw [StaysLarge, upperLetter_ascii h]
  rfl

lemma ascii_cleanup (h : ∀ d ∈ name, d.toNat < 128) : ∀ d ∈ cleanup name, d.toNat < 128 := by
  intro d hd
  by_cases hscore : d = '_'
  · rw [hscore]
    decide
  · exact h d (mem_of_mem_cleanup hd hscore)

/-- The base of a canonical name is capitalized already, if the name is made of ASCII characters. -/
lemma pascal_baseFor (h : ∀ d ∈ name, d.toNat < 128) (word : List Char) :
    pascal (baseFor word name) = baseFor word name := by
  refine (pascal_pascal_iff _).mpr fun w hw x hx => staysLarge_of_ascii ?_
  have hmem := (mem_wordsCut hw (List.mem_of_mem_head? hx)).1
  exact ascii_cleanup h x ((stripMarker_isInfix _ _).subset hmem)

end Naming

open Naming

variable {c : Capability} {name base word : String}

lemma Name.pascal_base (hname : ∀ d ∈ name.toList, d.toNat < 128) (hword : c.typeWord? = some word)
    (h : Name.normalize name c true = base ++ "_" ++ word) : Name.pascal base = base := by
  rw [Name.pascal, Name.ofChars, (Name.base_eq hword h).1, pascal_baseFor hname,
    ← (Name.base_eq hword h).1, String.ofList_toList]

/-- A canonical name has a base, or it is the type word. -/
lemma Name.normalize_cases (hword : c.typeWord? = some word) (name : String) :
    Name.normalize name c true = word ∨ ∃ base, Name.normalize name c true = base ++ "_" ++ word := by
  have hchars := Name.toList_normalize hword name
  by_cases hbase : baseFor word.toList name.toList = []
  · rw [withType_of_no_base hbase] at hchars
    exact .inl (String.toList_inj.mp hchars)
  · rw [withType_of_base hbase] at hchars
    refine .inr ⟨String.ofList (baseFor word.toList name.toList), String.toList_inj.mp ?_⟩
    rw [hchars]
    simp

lemma typeWord_mem_suffixTypes (hword : c.typeWord? = some word) : word.toList ∈ suffixTypes := by
  have hall : ∀ w ∈ c.typeWord?, w.toList ∈ suffixTypes := by cases c <;> decide
  exact hall word hword

/-- A bare type word lends no base. -/
lemma partBase_typeWord (hword : c.typeWord? = some word) : partBase word word = "" := by
  have hall : ∀ w ∈ c.typeWord?, partBase w w = "" := by cases c <;> decide +kernel
  exact hall word hword

/-- A name of base and type word lends its base, if that is capitalized and is not the type word. -/
lemma partBase_of_base (hword : c.typeWord? = some word) (hne : base ≠ "")
    (hlower : Name.lower base ≠ Name.lower word) (hpascal : Name.pascal base = base) :
    partBase (base ++ "_" ++ word) word = base := by
  have hvisible : Name.isBlank base ≠ true :=
    fun hblank => hne (hpascal.symm.trans (Name.pascal_of_isBlank hblank))
  rw [partBase_append (typeWord_mem_suffixTypes hword), if_neg, hpascal]
  rw [Bool.or_eq_true, beq_iff_eq]
  exact not_or.mpr ⟨hvisible, hlower⟩

lemma partBase_of_same (hword : c.typeWord? = some word) (hlower : Name.lower base = Name.lower word) :
    partBase (base ++ "_" ++ word) word = "" := by
  rw [partBase_append (typeWord_mem_suffixTypes hword), if_pos]
  rw [Bool.or_eq_true, beq_iff_eq]
  exact .inr hlower

/-- **The names of parts begin with the canonical name.** A canonical name of ASCII characters that
has a base other than the type word gives back this base when its type word is taken off, the base
stays when it is capitalized, and the names of parts are the canonical name and a role. Any other
canonical name gives its parts the type word and a role. -/
theorem partName_normalize (hname : ∀ d ∈ name.toList, d.toNat < 128)
    (hword : c.typeWord? = some word) :
    let full := Name.normalize name c true
    (∀ base, full = base ++ "_" ++ word → base ≠ "" → Name.lower base ≠ Name.lower word →
      Name.withoutTypeSuffix full = base ∧ Name.pascal base = base ∧
        ∀ role ≠ "", partName full c role = full ++ "_" ++ role) ∧
    ((¬ ∃ base, full = base ++ "_" ++ word ∧ base ≠ "" ∧ Name.lower base ≠ Name.lower word) →
      ∀ role ≠ "", partName full c role = word ++ "_" ++ role) := by
  intro full
  constructor
  · intro base hfull hne hlower
    have hpascal := Name.pascal_base hname hword hfull
    rw [hfull, Name.withoutTypeSuffix_append (typeWord_mem_suffixTypes hword)]
    refine ⟨rfl, hpascal, fun role hrole => ?_⟩
    rw [partName_eq hword hrole, partBase_of_base hword hne hlower hpascal, if_neg hne, partEnd]
    simp only [String.append_assoc]
  · intro hother role hrole
    have hlends : partBase full word = "" := by
      rcases Name.normalize_cases hword name with hfull | ⟨base, hfull⟩
      · exact (congrArg (partBase · word) hfull).trans (partBase_typeWord hword)
      · have hsame : Name.lower base = Name.lower word := by
          by_contra hlower
          exact hother ⟨base, hfull, Name.base_ne_empty hword hfull, hlower⟩
        exact (congrArg (partBase · word) hfull).trans (partBase_of_same hword hsame)
    rw [partName_eq hword hrole, if_pos hlends, partEnd]

/-- A dropdown with a base of two words and a button that says no more than that it is one. -/
theorem partName_normalize_of_quality :
    (∀ d ∈ "drp gameQuality (2)".toList, d.toNat < 128) ∧
    (∀ d ∈ "button  BUTTON".toList, d.toNat < 128) ∧
    Name.normalize "drp gameQuality (2)" .dropdown true = "Game_Quality" ++ "_" ++ "Dropdown" ∧
    Name.normalize "button  BUTTON" .button true = "Button" ++ "_" ++ "Button" ∧
    (Name.withoutTypeSuffix (Name.normalize "drp gameQuality (2)" .dropdown true) = "Game_Quality" ∧
      Name.pascal "Game_Quality" = "Game_Quality" ∧
      ∀ role ≠ "", partName (Name.normalize "drp gameQuality (2)" .dropdown true) .dropdown role =
        Name.normalize "drp gameQuality (2)" .dropdown true ++ "_" ++ role) ∧
    ∀ role ≠ "", partName (Name.normalize "button  BUTTON" .button true) .button role =
      "Button" ++ "_" ++ role := by
  have hquality : Name.normalize "drp gameQuality (2)" .dropdown true =
      "Game_Quality" ++ "_" ++ "Dropdown" := by decide +kernel
  have hbutton : Name.normalize "button  BUTTON" .button true = "Button" ++ "_" ++ "Button" := by
    decide +kernel
  have hascii : ∀ d ∈ "drp gameQuality (2)".toList, d.toNat < 128 := by
    simpa only [List.all_eq_true, decide_eq_true_eq] using
      (by decide : ("drp gameQuality (2)".toList.all fun d => decide (d.toNat < 128)) = true)
  have hascii' : ∀ d ∈ "button  BUTTON".toList, d.toNat < 128 := by
    simpa only [List.all_eq_true, decide_eq_true_eq] using
      (by decide : ("button  BUTTON".toList.all fun d => decide (d.toNat < 128)) = true)
  refine ⟨hascii, hascii', hquality, hbutton, ?_, ?_⟩
  · exact (partName_normalize hascii rfl).1 "Game_Quality" hquality (by decide) (by decide +kernel)
  · refine (partName_normalize hascii' rfl).2 ?_
    rintro ⟨base, hbase, -, hlower⟩
    rw [hbutton] at hbase
    have hsame : base = "Button" := by
      exact ((String.append_left_inj _).mp ((String.append_left_inj _).mp hbase)).symm
    exact hlower (by rw [hsame])

end SceneBindings
