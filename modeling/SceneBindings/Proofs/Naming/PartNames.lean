import SceneBindings.Proofs.Naming.Canonical
import SceneBindings.Proofs.Naming.Separators

/-!
The names of parts. The name of a widget lends them its base, the part before the type word, and they
end with the type word and a role.
-/

namespace SceneBindings

namespace Naming

open Text

variable {word : List Char}

/-- No two of the type words that end names end alike. -/
lemma suffixTypes_apart : ∀ v ∈ suffixTypes, ∀ w ∈ suffixTypes,
    '_' :: lower v <:+ '_' :: lower w → v = w := by
  decide +kernel

lemma suffixTypes_letters : ∀ w ∈ suffixTypes, w.all isIdentifierChar = true := by decide

/-- A type word after an underscore is what is cut off. -/
lemma withoutTypeSuffix_append (hword : word ∈ suffixTypes) (base : List Char) :
    withoutTypeSuffix (base ++ '_' :: word) = base := by
  have hletters := List.all_eq_true.mp (suffixTypes_letters word hword)
  have hjoined : suffixTypes.findSome? (joinedSuffix? (base ++ '_' :: word)) = some base := by
    cases hfound : suffixTypes.findSome? (joinedSuffix? (base ++ '_' :: word)) with
    | none =>
      have hnone := List.findSome?_eq_none_iff.mp hfound word hword
      rw [joinedSuffix?_append hletters] at hnone
      cases hnone
    | some s =>
      obtain ⟨v, hv, hs⟩ := List.exists_of_findSome?_eq_some hfound
      obtain rfl : v = word := by
        have hscore := score_suffix_lower hletters base
        have hends : '_' :: lower v <:+ lower (base ++ '_' :: word) := by
          rw [joinedSuffix?] at hs
          split at hs
          · next h => exact List.isSuffixOf_iff_suffix.mp h
          · cases hs
        rcases List.suffix_or_suffix_of_suffix hends hscore with h | h
        · exact suffixTypes_apart v hv word hword h
        · exact (suffixTypes_apart word hword v hv h).symm
      rw [joinedSuffix?_append hletters] at hs
      exact hs.symm
  rw [withoutTypeSuffix, hjoined]
  rfl

lemma pascal_of_blank {s : List Char} (h : ∀ c ∈ s, isBlank c = true) : pascal s = [] := by
  have hwords : nameWords s = [] := by
    rw [nameWords]
    induction s with
    | nil => rfl
    | cons c s ih =>
      rw [List.forall_mem_cons] at h
      rw [wordsCut_sep (by rw [isWordGap, h.1, Bool.or_true]), ih h.2]
  rw [pascal, hwords]
  rfl

end Naming

open Naming

/-! ### Roles -/

/-- The capabilities whose parts are named by fields or by fixed names of children. -/
def widgets : List Capability := [.inputField, .toggle, .dropdown, .slider, .scrollArea]

/-- The roles that parts can have in a node of a capability. -/
def roleWords : Capability → List String
  | .inputField => ["Text", "Placeholder"]
  | .toggle => ["Checkmark", "Label"]
  | .dropdown => ["Label", "Arrow", "Template", "Scrollbar", "Viewport", "Content"]
  | .slider => ["Fill_Area", "Fill", "Handle", "Handle_Slide_Area"]
  | .scrollArea => ["Viewport", "Content", "H_Scrollbar", "V_Scrollbar"]
  | .panel => []
  | _ => ["Text", "Image"]

/-- A role is a word or several, with an underscore between them. -/
abbrev IsRole (role : String) : Prop := role.toList.all isIdentifierChar = true

lemma isRole_of_mem {c : Capability} {role : String} (h : role ∈ roleWords c) : IsRole role := by
  have hall : ∀ role ∈ roleWords c, IsRole role := by cases c <;> decide
  exact hall role h

/-- What the name of a part ends with. -/
def partEnd (word role : String) : String := word ++ "_" ++ role

lemma Capability.mem_all (c : Capability) : c ∈ Capability.all := by cases c <;> decide

lemma roleWords_ne_empty (c : Capability) : "" ∉ roleWords c := by cases c <;> decide

lemma partEnd_apart_all : ∀ c ∈ Capability.all, ∀ d ∈ Capability.all,
    ∀ v ∈ c.typeWord?, ∀ w ∈ d.typeWord?, ∀ x ∈ roleWords c, ∀ y ∈ roleWords d,
      (partEnd v x).toList <:+ (partEnd w y).toList → v = w ∧ x = y := by
  decide +kernel

/-- What a name of a part ends with shows its role, and the type word of the widget. -/
lemma partEnd_apart {c d : Capability} {v w x y : String} {name : List Char}
    (hv : c.typeWord? = some v) (hw : d.typeWord? = some w) (hx : x ∈ roleWords c)
    (hy : y ∈ roleWords d) (hname : (partEnd v x).toList <:+ name)
    (hname' : (partEnd w y).toList <:+ name) : v = w ∧ x = y := by
  rcases List.suffix_or_suffix_of_suffix hname hname' with h | h
  · exact partEnd_apart_all c c.mem_all d d.mem_all v hv w hw x hx y hy h
  · exact (partEnd_apart_all d d.mem_all c c.mem_all w hw v hv y hy x hx h).imp Eq.symm Eq.symm

/-! ### Names -/

lemma Name.toList_normalize {c : Capability} {word : String} (hword : c.typeWord? = some word)
    (name : String) : (Name.normalize name c true).toList = withType word.toList name.toList := by
  rw [Name.normalize, Name.ofChars, String.toList_ofList, Naming.normalize, typeWordChars?, hword]
  rfl

/-- What stands before the type word in a canonical name is the base that it was made with. -/
lemma Name.base_eq {c : Capability} {name base word : String} (hword : c.typeWord? = some word)
    (h : Name.normalize name c true = base ++ "_" ++ word) :
    base.toList = baseFor word.toList name.toList ∧ baseFor word.toList name.toList ≠ [] := by
  have hchars : base.toList ++ '_' :: word.toList = withType word.toList name.toList := by
    rw [← Name.toList_normalize hword, h]
    simp
  by_cases hbase : baseFor word.toList name.toList = []
  · rw [withType_of_no_base hbase] at hchars
    have hlen := congrArg List.length hchars
    rw [List.length_append, List.length_cons] at hlen
    omega
  · rw [withType_of_base hbase] at hchars
    exact ⟨List.append_cancel_right hchars, hbase⟩

/-- A canonical name that has a base as well as a type word has a base that is not empty. -/
lemma Name.base_ne_empty {c : Capability} {name base word : String} (hword : c.typeWord? = some word)
    (h : Name.normalize name c true = base ++ "_" ++ word) : base ≠ "" := by
  rintro rfl
  obtain ⟨hbase, hne⟩ := Name.base_eq hword h
  exact hne hbase.symm

lemma partName_eq {c : Capability} {name word role : String} (hword : c.typeWord? = some word)
    (hrole : role ≠ "") : partName name c role =
      if partBase name word = "" then partEnd word role
      else partBase name word ++ "_" ++ partEnd word role := by
  have hne : word ≠ "" := by
    rintro rfl
    revert hword
    cases c <;> decide
  rw [partName, hword, Option.getD_some]
  apply String.toList_inj.mp
  split
  · next hbase => simp [hbase, hne, hrole, partEnd]
  · next hbase => simp [hbase, hne, hrole, partEnd]

lemma partEnd_suffix_partName {c : Capability} {word role : String} (hword : c.typeWord? = some word)
    (hrole : role ≠ "") (name : String) :
    (partEnd word role).toList <:+ (partName name c role).toList := by
  rw [partName_eq hword hrole]
  split
  · exact List.suffix_refl _
  · rw [String.toList_append]
    exact List.suffix_append _ _

lemma Name.withoutTypeSuffix_append {word : String} (hword : word.toList ∈ suffixTypes)
    (base : String) : Name.withoutTypeSuffix (base ++ "_" ++ word) = base := by
  have hchars : (base ++ "_" ++ word).toList = base.toList ++ '_' :: word.toList := by simp
  rw [Name.withoutTypeSuffix, Name.ofChars, hchars, Naming.withoutTypeSuffix_append hword,
    String.ofList_toList]

lemma Name.pascal_of_isBlank {base : String} (h : Name.isBlank base = true) :
    Name.pascal base = "" := by
  rw [Name.pascal, Name.ofChars, pascal_of_blank (List.all_eq_true.mp h)]

lemma widget_suffixTypes : ∀ c ∈ widgets, ∀ w ∈ c.typeWord?, w.toList ∈ suffixTypes := by decide

/-- The base that a name of base and type word lends. -/
lemma partBase_append {word : String} (hword : word.toList ∈ suffixTypes) (base : String) :
    partBase (base ++ "_" ++ word) word =
      if Name.isBlank base || Name.lower base == Name.lower word then "" else Name.pascal base := by
  rw [partBase, Name.withoutTypeSuffix_append hword]

/-- A widget with a name of base and type word gives its whole name to a part just if its base stays
when it is capitalized again, and is not the type word. -/
lemma partName_append_iff {c : Capability} {base word x y : String} (hc : c ∈ widgets)
    (hword : c.typeWord? = some word) (hbase : base ≠ "") (hx : x ∈ roleWords c)
    (hy : y ∈ roleWords c) : partName (base ++ "_" ++ word) c y = base ++ "_" ++ partEnd word x ↔
      (Name.pascal base = base ∧ Name.lower base ≠ Name.lower word) ∧ y = x := by
  have hlends := partBase_append (widget_suffixTypes c hc word hword) base
  have hends : (partEnd word x).toList <:+ (base ++ "_" ++ partEnd word x).toList := by
    rw [String.toList_append]
    exact List.suffix_append _ _
  have hrole : ∀ {z : String}, z ++ partEnd word y = base ++ "_" ++ partEnd word x → y = x := by
    intro z h
    refine (partEnd_apart hword hword hy hx ?_ hends).2
    rw [← h, String.toList_append]
    exact List.suffix_append _ _
  rw [partName_eq hword fun hy' => roleWords_ne_empty c (hy' ▸ hy)]
  split
  · next hnone =>
    refine iff_of_false (fun h => ?_) ?_
    · rw [← String.empty_append (s := partEnd word y)] at h
      obtain rfl := hrole h
      have hlen := congrArg String.length h
      simp at hlen
    · rintro ⟨⟨hpascal, hlower⟩, -⟩
      rw [hlends] at hnone
      split at hnone
      · next hcond =>
        rcases Bool.or_eq_true_iff.mp hcond with hblank | hsame
        · exact hbase (hpascal.symm.trans (Name.pascal_of_isBlank hblank))
        · exact hlower (eq_of_beq hsame)
      · exact hbase (hpascal.symm.trans hnone)
  · next hsome =>
    rw [hlends] at hsome ⊢
    split at hsome
    · exact absurd rfl hsome
    · next hcond =>
      rw [if_neg hcond]
      rw [Bool.or_eq_true, not_or, beq_iff_eq] at hcond
      constructor
      · intro h
        obtain rfl := hrole h
        exact ⟨⟨(String.append_left_inj _).mp ((String.append_left_inj _).mp h), hcond.2⟩, rfl⟩
      · rintro ⟨⟨hpascal, -⟩, rfl⟩
        rw [hpascal]

end SceneBindings
