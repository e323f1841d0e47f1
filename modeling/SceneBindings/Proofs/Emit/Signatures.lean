import SceneBindings.Emit.Signature
import SceneBindings.Proofs.Naming.Identifiers
import SceneBindings.Text.Quoted

/-!
What the emitters rely on in a signature: its name is `on_` and an identifier, it is the hook of a
role, and nothing that is emitted for it holds a line break.
-/

namespace SceneBindings

open Naming Text

/-- No line break stands in it. -/
def Unbroken (s : String) : Prop := ∀ c ∈ s.toList, c ≠ '\n' ∧ c ≠ '\r'

def isBreak (c : Char) : Bool := c.toNat == 10 || c.toNat == 13

namespace Unbroken

lemma of_all {cs : List Char} (h : (cs.all fun c => !isBreak c) = true) :
    ∀ c ∈ cs, c ≠ '\n' ∧ c ≠ '\r' := by
  intro c hc
  have hbreak := List.all_eq_true.mp h c hc
  constructor <;>
  · rintro rfl
    revert hbreak
    decide

/-- A literal is checked as the list of its characters, since its own list is slow to evaluate. -/
lemma literal (cs : List Char) (h : (cs.all fun c => !isBreak c) = true) :
    Unbroken (String.ofList cs) := by
  rw [Unbroken, String.toList_ofList]
  exact of_all h

lemma append {s t : String} (hs : Unbroken s) (ht : Unbroken t) : Unbroken (s ++ t) := by
  intro c hc
  rw [String.toList_append, List.mem_append] at hc
  exact hc.elim (hs c) (ht c)

lemma of_identifier {s : String} (h : ∀ c ∈ s.toList, isIdentifierChar c = true) : Unbroken s := by
  intro c hc
  have hrange := toNat_lt_of_isIdentifierChar (h c hc)
  constructor <;>
  · rintro rfl
    revert hrange
    decide

lemma sanitize (s : String) : Unbroken (Name.sanitize s) := by
  refine of_identifier fun c hc => ?_
  rw [Name.sanitize, Name.ofChars, String.toList_ofList] at hc
  exact isIdentifierChar_sanitize hc

lemma escapeKeyword_sanitize (s : String) : Unbroken (Name.escapeKeyword (Name.sanitize s)) := by
  refine of_identifier fun c hc => ?_
  rw [Name.escapeKeyword, Name.ofChars, String.toList_ofList] at hc
  refine isIdentifierChar_escapeKeyword (fun d hd => ?_) hc
  rw [Name.sanitize, Name.ofChars, String.toList_ofList] at hd
  exact isIdentifierChar_sanitize hd

lemma hexDigit (n : Nat) (h : n < 16) : Quoted.hexDigit n ≠ '\n' ∧ Quoted.hexDigit n ≠ '\r' := by
  revert n
  decide

lemma hex (width n : Nat) : ∀ c ∈ Quoted.hex width n, c ≠ '\n' ∧ c ≠ '\r' := by
  induction width generalizing n with
  | zero => exact nofun
  | succ width ih =>
    intro c hc
    rw [Quoted.hex, List.mem_append] at hc
    rcases hc with hc | hc
    · exact ih _ c hc
    · rw [List.mem_singleton.mp hc]
      exact hexDigit _ (Nat.mod_lt _ (by omega))

lemma escapeCode (n : Nat) : ∀ c ∈ Quoted.escapeCode n, c ≠ '\n' ∧ c ≠ '\r' := by
  intro c hc
  rw [Quoted.escapeCode] at hc
  split at hc
  · exact hexEscape (by decide) (by decide) hc
  · split at hc
    · exact hexEscape (by decide) (by decide) hc
    · exact hexEscape (by decide) (by decide) hc
where
  hexEscape {a b c : Char} {width n : Nat} (ha : a ≠ '\n' ∧ a ≠ '\r') (hb : b ≠ '\n' ∧ b ≠ '\r')
      (hc : c ∈ a :: b :: Quoted.hex width n) : c ≠ '\n' ∧ c ≠ '\r' := by
    rcases List.mem_cons.mp hc with rfl | hc
    · exact ha
    · rcases List.mem_cons.mp hc with rfl | hc
      · exact hb
      · exact hex width n c hc

lemma encodeChar {quote : Char} (hq : quote ≠ '\n' ∧ quote ≠ '\r') (c : Char) :
    ∀ d ∈ Quoted.encodeChar quote c, d ≠ '\n' ∧ d ≠ '\r' := by
  rw [Quoted.encodeChar]
  split
  · next hc =>
    rw [List.forall_mem_cons, List.forall_mem_singleton]
    refine ⟨by decide, ?_⟩
    rcases hc with rfl | rfl
    · exact hq
    · decide
  · split
    · exact of_all (by decide)
    · next hn =>
      split
      · exact of_all (by decide)
      · next hr =>
        split
        · exact of_all (by decide)
        · split
          · exact List.forall_mem_singleton.mpr ⟨hn, hr⟩
          · exact escapeCode c.toNat

lemma quoted (s : String) : Unbroken (Text.quoted s) := by
  have hq : Quoted.quoteOf s.toList ≠ '\n' ∧ Quoted.quoteOf s.toList ≠ '\r' := by
    rw [Quoted.quoteOf]
    split <;> decide
  intro c hc
  rw [Text.quoted, String.toList_ofList, Quoted.encode, List.cons_append, List.mem_cons,
    List.mem_append, List.mem_flatMap, List.mem_singleton] at hc
  rcases hc with rfl | ⟨a, -, hc⟩ | rfl
  · exact hq
  · exact encodeChar hq a c hc
  · exact hq

end Unbroken

/-! ### Signatures -/

/-- The name is that of a hook, the hook is that of a role, and the accessor is not broken. -/
structure Signature.Wired (s : Signature) : Prop where
  name : ∃ tail, tail ≠ [] ∧ (∀ c ∈ tail, isIdentifierChar c = true) ∧
    s.name = String.ofList ("on_".toList ++ tail)
  accessor : Unbroken s.accessor
  hook : ∃ c : Capability, c.hook? = some s.hook

namespace Signature.Wired

variable {s : Signature}

lemma unbroken_name (h : s.Wired) : Unbroken s.name := by
  obtain ⟨tail, -, htail, hname⟩ := h.name
  refine .of_identifier fun c hc => ?_
  rw [hname, String.toList_ofList, List.mem_append] at hc
  have hon : ∀ c ∈ "on_".toList, isIdentifierChar c = true := List.all_eq_true.mp (by decide)
  exact hc.elim (hon c) (htail c)

lemma unbroken_event (h : s.Wired) : Unbroken s.hook.event := by
  obtain ⟨c, hc⟩ := h.hook
  generalize s.hook = h at hc
  cases c <;> cases hc <;> exact .literal _ rfl

lemma parameters (h : s.Wired) :
    ∃ more, Unbroken more ∧ s.parameters = "self" ++ more := by
  obtain ⟨c, hc⟩ := h.hook
  rw [Signature.parameters]
  generalize s.hook = h at hc
  cases c <;> cases hc
  · exact ⟨"", .literal _ rfl, rfl⟩
  · exact ⟨", is_on: bool", .literal _ rfl, rfl⟩
  · exact ⟨", text: str", .literal _ rfl, rfl⟩
  · exact ⟨", value: float", .literal _ rfl, rfl⟩
  · exact ⟨", index: int", .literal _ rfl, rfl⟩

end Signature.Wired

namespace PanelGroup

lemma property_elementsFrom {f : Forest} {key : String} {seen : List String} {rs : List Reference}
    {e : GroupElement} (h : e ∈ (elementsFrom f key seen rs).1) : Unbroken e.property := by
  induction rs generalizing seen with
  | nil => cases h
  | cons r rs ih =>
    rw [elementsFrom] at h
    dsimp only at h
    split at h
    · exact ih h
    · rcases List.mem_cons.mp h with rfl | h
      · exact .escapeKeyword_sanitize _
      · exact ih h

lemma property_build {f : Forest} {g : Registry} {group : PanelGroup} {e : GroupElement}
    (hg : group ∈ (build f g).1) (he : e ∈ group.elements) : Unbroken e.property := by
  simp only [build, List.map_map, List.mem_map] at hg
  obtain ⟨k, -, rfl⟩ := hg
  exact property_elementsFrom he

end PanelGroup

namespace Signature

lemma mem_of_mem_distinct {seen : List String} {all : List (Signature × String)} {s : Signature}
    (h : s ∈ (distinct seen all).1) : ∃ path, (s, path) ∈ all := by
  induction all generalizing seen with
  | nil => cases h
  | cons a all ih =>
    obtain ⟨t, path⟩ := a
    have hrest : ∀ {seen}, s ∈ (distinct seen all).1 → ∃ p, (s, p) ∈ (t, path) :: all :=
      fun h => (ih h).imp fun _ hp => List.mem_cons_of_mem _ hp
    rw [distinct] at h
    split at h
    · exact hrest h
    · rcases List.mem_cons.mp h with rfl | h
      · exact ⟨path, List.mem_cons_self⟩
      · exact hrest h

lemma mem_collect {groups : List PanelGroup} {s : Signature} (h : s ∈ (collect groups).1) :
    ∃ g ∈ groups, ∃ e ∈ g.elements, ofElement? g e = some s := by
  rw [collect, List.mem_mergeSort] at h
  obtain ⟨path, hall⟩ := mem_of_mem_distinct h
  simp only [List.mem_flatMap, List.mem_filterMap, Option.map_eq_some_iff, Prod.mk.injEq] at hall
  obtain ⟨g, hg, e, he, t, ht, rfl, -⟩ := hall
  exact ⟨g, hg, e, he, ht⟩

lemma wired_ofElement {g : PanelGroup} {e : GroupElement} {s : Signature}
    (hproperty : Unbroken e.property) (h : ofElement? g e = some s) : s.Wired := by
  rw [ofElement?, Option.map_eq_some_iff] at h
  obtain ⟨h, hook, rfl⟩ := h
  refine ⟨⟨(Name.snake e.reference.name).toList ++ '_' :: h.suffix.toList, by simp, ?_, ?_⟩, ?_, ?_⟩
  · intro c hc
    rw [List.mem_append, List.mem_cons] at hc
    rcases hc with hc | rfl | hc
    · rw [Name.snake, Name.ofChars, String.toList_ofList] at hc
      exact isIdentifierChar_snake hc
    · rfl
    · revert c
      refine List.all_eq_true.mp ?_
      generalize e.reference.capability = role at hook
      cases role <;> cases hook <;> decide
  · rw [← String.toList_inj, String.toList_ofList, hookName]
    simp only [String.toList_append, List.append_assoc]
    rfl
  · have hclass : Unbroken g.className := .escapeKeyword_sanitize g.key
    have hui : Unbroken "UI." := .literal _ rfl
    have hdot : Unbroken "." := .literal _ rfl
    exact ((hui.append hclass).append hdot).append hproperty
  · exact ⟨_, hook⟩

/-- All signatures that are collected from a registry are well formed. -/
theorem wired_collect {f : Forest} {g : Registry} {s : Signature}
    (h : s ∈ (collect (PanelGroup.build f g).1).1) : s.Wired := by
  obtain ⟨group, hgroup, e, he, hs⟩ := mem_collect h
  exact wired_ofElement (PanelGroup.property_build hgroup he) hs

end Signature

end SceneBindings
